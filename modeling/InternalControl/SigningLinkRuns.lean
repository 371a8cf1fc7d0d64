import InternalControl.EnvelopeRuns
import InternalControl.SigningLinks

/-!
# Signing links over runs of transactions

A request has its link locked from the moment it finds it active until it
commits. So a link that is used is open and authorized there and then, and once
it is closed nothing opens it again.
-/

namespace InternalControl.SigningLinks

open Documents DocumentEngine Interleaving
open SignatureEnvelope (Envelope System nextSigner)

/-! ### The book of the links -/

/-- The links with what is kept beside them. -/
structure Book where
  links : Table SigningLink.id
  mistakes : List RowId
  grants : List Grant
  acts : List LinkAct

def Store.book {ι : Type} (store : Store ι) : Book :=
  ⟨store.links, store.mistakes, store.grants, store.acts⟩

def grantsOf (grants : List Grant) (id : RowId) : List Grant :=
  grants.filter fun grant => grant.link = id

def actsOf (acts : List LinkAct) (id : RowId) : List LinkAct := acts.filter fun act => act.link = id

/-- What a statement writes into a link, and beside it. Only a delivery is stored in a link that is
closed. -/
inductive LinkStep (link : SigningLink) :
    (SigningLink → SigningLink) → List RowId → List Grant → List LinkAct → Prop
  | dispatch (hash : String) (now : ℤ) (hopen : link.IsOpen) :
      LinkStep link (SigningLink.dispatched hash now) [] [] []
  | deliver (error : Option String) (now : ℤ) : LinkStep link (SigningLink.delivered error now) [] [] []
  | mistake (now : ℤ) (hopen : link.IsOpen) :
      LinkStep link (SigningLink.mistaken now) [link.id] [] []
  | confirm (hash : String) (now : ℤ) (hopen : link.IsOpen) :
      LinkStep link (SigningLink.confirmed hash now) []
        [⟨link.id, hash, now + identityAuthorizationMinutes * 60000⟩] []
  | consume (action : LinkAction) (now : ℤ) (act : LinkAct) (hact : act.link = link.id)
      (hopen : link.IsOpen) : LinkStep link (SigningLink.consumed action now) [] [] [act]
  | mark (change : Change) (now : ℤ) (hopen : link.IsOpen) : LinkStep link (change.mark now) [] [] []

/-- A link as it starts. -/
structure IsBlank (link : SigningLink) : Prop where
  attempts : link.identityAttempts = 0
  authorization : link.authorizationHash = none
  consumed : link.consumedAt = none

/-- What a statement does to the links: it writes into one, marks some, or adds one. -/
inductive BookStep (book : Book) : Book → Prop
  | write (link : SigningLink) (change : SigningLink → SigningLink)
      (hid : ∀ link, (change link).id = link.id) (mistakes : List RowId) (grants : List Grant)
      (acts : List LinkAct) (hfound : book.links.find? link.id = some link)
      (hstep : LinkStep link change mistakes grants acts) :
      BookStep book ⟨book.links.update (fun other => other.id = link.id) change hid,
        book.mistakes ++ mistakes, book.grants ++ grants, book.acts ++ acts⟩
  | mark (picked : List RowId) (change : Change) (now : ℤ)
      (hopen : ∀ id link, id ∈ picked → book.links.find? id = some link → link.IsOpen) :
      BookStep book { book with
        links := book.links.update (fun link => link.id ∈ picked) (change.mark now)
          (change.id_mark now) }
  | insert (link : SigningLink) (links : Table SigningLink.id)
      (hinsert : book.links.insert link = some links) (hblank : IsBlank link) :
      BookStep book { book with links := links }

/-! ### Invariants of the book -/

/-- The row of a link tells what is kept beside it. -/
structure LinkSound (book : Book) (link : SigningLink) : Prop where
  counted : book.mistakes.count link.id = link.identityAttempts
  bounded : link.identityAttempts ≤ maxIdentityAttempts
  closed : link.IsOpen → link.identityAttempts < maxIdentityAttempts
  once : (actsOf book.acts link.id).length = if link.consumedAt.isSome then 1 else 0
  authorized : ∀ hash ∈ link.authorizationHash, ∀ expiresAt ∈ link.authorizationExpiresAt,
    ⟨link.id, hash, expiresAt⟩ ∈ book.grants

/-- Every link is sound, and what is kept is about links that are there. -/
structure Sound (book : Book) : Prop where
  link : ∀ id link, book.links.find? id = some link → LinkSound book link
  mistaken : ∀ id ∈ book.mistakes, (book.links.find? id).isSome
  granted : ∀ grant ∈ book.grants, (book.links.find? grant.link).isSome
  acted : ∀ act ∈ book.acts, (book.links.find? act.link).isSome

section LinkStep

variable {link : SigningLink} {change : SigningLink → SigningLink} {mistakes : List RowId}
  {grants : List Grant} {acts : List LinkAct}

/-- What a statement keeps beside a link is about that link. -/
theorem LinkStep.about (h : LinkStep link change mistakes grants acts) :
    (∀ id ∈ mistakes, id = link.id) ∧ (∀ grant ∈ grants, grant.link = link.id) ∧
      ∀ act ∈ acts, act.link = link.id := by
  cases h with
  | mistake now hopen => simp
  | confirm hash now hopen => simp
  | consume action now act hact hopen => simpa using hact
  | _ => simp

theorem LinkStep.id_eq (h : LinkStep link change mistakes grants acts) : (change link).id = link.id := by
  cases h with
  | mark kind now hopen => exact kind.id_mark now link
  | _ => rfl

/-- A link that is closed stays as it is but for its delivery. -/
theorem LinkStep.closed (h : LinkStep link change mistakes grants acts) (hclosed : ¬link.IsOpen) :
    (change link).consumedAt = link.consumedAt ∧ (change link).invalidatedAt = link.invalidatedAt ∧
      mistakes = [] ∧ grants = [] ∧ acts = [] := by
  cases h with
  | deliver error now => exact ⟨rfl, rfl, rfl, rfl, rfl⟩
  | dispatch hash now hopen => exact absurd hopen hclosed
  | mistake now hopen => exact absurd hopen hclosed
  | confirm hash now hopen => exact absurd hopen hclosed
  | consume action now act hact hopen => exact absurd hopen hclosed
  | mark kind now hopen => exact absurd hopen hclosed

theorem actsOf_append (acts later : List LinkAct) (id : RowId) :
    actsOf (acts ++ later) id = actsOf acts id ++ actsOf later id :=
  List.filter_append ..

theorem grantsOf_append (grants later : List Grant) (id : RowId) :
    grantsOf (grants ++ later) id = grantsOf grants id ++ grantsOf later id :=
  List.filter_append ..

/-- A link stays sound when its own columns do not change. -/
theorem LinkSound.of_same {book book' : Book} {link' : SigningLink} (h : LinkSound book link)
    (hid : link'.id = link.id) (hattempts : link'.identityAttempts = link.identityAttempts)
    (hconsumed : link'.consumedAt = link.consumedAt) (hopen : link'.IsOpen → link.IsOpen)
    (hauthorization : link'.authorizationHash = none ∨
      link'.authorizationHash = link.authorizationHash ∧
        link'.authorizationExpiresAt = link.authorizationExpiresAt)
    (hmistakes : book'.mistakes.count link.id = book.mistakes.count link.id)
    (hacts : actsOf book'.acts link.id = actsOf book.acts link.id)
    (hgrants : ∀ grant ∈ book.grants, grant ∈ book'.grants) : LinkSound book' link' := by
  have hcounted := h.counted
  have hbounded := h.bounded
  refine ⟨?_, ?_, fun hlater => ?_, ?_, fun hash hhash expiresAt hexpires => ?_⟩
  · rw [hid, hmistakes, hattempts]
    exact hcounted
  · omega
  · have hbelow := h.closed (hopen hlater)
    omega
  · rw [hid, hacts, hconsumed]
    exact h.once
  · rcases hauthorization with hnone | ⟨hsame, hsame'⟩
    · rw [hnone] at hhash
      cases hhash
    · rw [hsame] at hhash
      rw [hsame'] at hexpires
      rw [hid]
      exact hgrants _ (h.authorized hash hhash expiresAt hexpires)

/-- A statement keeps the link that it writes into sound. -/
theorem LinkSound.step {book : Book} (h : LinkSound book link)
    (hstep : LinkStep link change mistakes grants acts) (links : Table SigningLink.id) :
    LinkSound ⟨links, book.mistakes ++ mistakes, book.grants ++ grants, book.acts ++ acts⟩
      (change link) := by
  have hkept : ∀ grant ∈ book.grants, grant ∈ book.grants ++ grants :=
    fun grant hin => List.mem_append_left _ hin
  cases hstep with
  | dispatch hash now hopen =>
    exact h.of_same rfl rfl rfl id (.inr ⟨rfl, rfl⟩) (by simp) (by simp) hkept
  | deliver error now =>
    exact h.of_same rfl rfl rfl id (.inr ⟨rfl, rfl⟩) (by simp) (by simp) hkept
  | mark kind now hopen =>
    have hclosed : (kind.mark now link).IsOpen → link.IsOpen := fun _ => hopen
    cases kind with
    | refresh candidate =>
      exact h.of_same rfl rfl rfl hclosed (.inr ⟨rfl, rfl⟩) (by simp) (by simp) hkept
    | _ => exact h.of_same rfl rfl rfl hclosed (.inl rfl) (by simp) (by simp) hkept
  | mistake now hopen =>
    have hbelow := h.closed hopen
    have hcounted := h.counted
    have hone : (book.mistakes ++ [link.id]).count link.id = link.identityAttempts + 1 := by
      rw [List.count_append, hcounted, List.count_singleton_self]
    refine ⟨hone, ?_, fun hlater => ?_, ?_, fun hash hnone => by cases hnone⟩
    · exact hbelow
    · have hinvalidated := hlater.2
      simp only [SigningLink.mistaken] at hinvalidated ⊢
      split at hinvalidated
      · cases hinvalidated
      · omega
    · have hacts : actsOf (book.acts ++ []) link.id = actsOf book.acts link.id := by
        rw [List.append_nil]
      exact (congrArg List.length hacts).trans h.once
  | confirm hash now hopen =>
    refine ⟨?_, h.bounded, fun hlater => h.closed hlater, ?_, fun other hother expiresAt hexpires => ?_⟩
    · simpa [SigningLink.confirmed] using h.counted
    · have hacts : actsOf (book.acts ++ []) link.id = actsOf book.acts link.id := by
        rw [List.append_nil]
      exact (congrArg List.length hacts).trans h.once
    · cases hother
      cases hexpires
      exact List.mem_append_right _ (List.mem_singleton_self _)
  | consume action now act hact hopen =>
    have honce := h.once
    rw [hopen.1] at honce
    have hone : actsOf [act] link.id = [act] := by simp [actsOf, hact]
    refine ⟨?_, h.bounded, fun hlater => (by cases hlater.1), ?_,
      fun hash hnone => by cases hnone⟩
    · simpa [SigningLink.consumed] using h.counted
    · have hlength : (actsOf (book.acts ++ [act]) link.id).length = 1 := by
        rw [actsOf_append, List.length_append, hone]
        simpa using honce
      simpa [SigningLink.consumed] using hlength

end LinkStep

section BookStep

variable {book book' : Book}

/-- What is kept about another link does not count. -/
theorem actsOf_eq_nil {acts : List LinkAct} {id other : RowId} (h : ∀ act ∈ acts, act.link = id)
    (hother : other ≠ id) : actsOf acts other = [] := by
  refine List.filter_eq_nil_iff.mpr fun act hin hpicked => hother ?_
  have hlink : act.link = other := of_decide_eq_true hpicked
  exact hlink.symm.trans (h act hin)

theorem grantsOf_eq_nil {grants : List Grant} {id other : RowId}
    (h : ∀ grant ∈ grants, grant.link = id) (hother : other ≠ id) : grantsOf grants other = [] := by
  refine List.filter_eq_nil_iff.mpr fun grant hin hpicked => hother ?_
  have hlink : grant.link = other := of_decide_eq_true hpicked
  exact hlink.symm.trans (h grant hin)

theorem count_append_of_ne {mistakes later : List RowId} {id other : RowId}
    (h : ∀ mistake ∈ later, mistake = id) (hother : other ≠ id) :
    (mistakes ++ later).count other = mistakes.count other := by
  have hnone : later.count other = 0 :=
    List.count_eq_zero.mpr fun hin => hother (h other hin)
  rw [List.count_append, hnone, Nat.add_zero]

theorem Sound.step (h : Sound book) (hstep : BookStep book book') : Sound book' := by
  cases hstep with
  | write link change hid mistakes grants acts hfound hstep =>
    obtain ⟨hmistakes, hgrants, hacts⟩ := hstep.about
    have hkept : ∀ id, (book.links.find? id).isSome →
        ((book.links.update (fun other => other.id = link.id) change hid).find? id).isSome :=
      fun id hsome => Table.isSome_find?_update.trans hsome
    have hsome : (book.links.find? link.id).isSome := by
      rw [hfound]
      rfl
    refine ⟨fun id row hrow => ?_, fun id hin => ?_, fun grant hin => ?_, fun act hin => ?_⟩
    · rw [Table.find?_update] at hrow
      obtain ⟨old, hold, hrow⟩ := Option.map_eq_some_iff.mp hrow
      have hsound := h.link id old hold
      split at hrow
      · next hsame =>
        have hkey := Table.key_of_find? hold
        rw [← hkey, hsame, hfound] at hold
        cases hold
        cases hrow
        exact hsound.step hstep _
      · next hother =>
        cases hrow
        refine hsound.of_same rfl rfl rfl (fun hopen => hopen) (.inr ⟨rfl, rfl⟩)
          (count_append_of_ne hmistakes hother) ?_ fun grant hin => List.mem_append_left _ hin
        rw [actsOf_append, actsOf_eq_nil hacts hother, List.append_nil]
    · rcases List.mem_append.mp hin with hin | hin
      · exact hkept id (h.mistaken id hin)
      · rw [hmistakes id hin]
        exact hkept link.id hsome
    · rcases List.mem_append.mp hin with hin | hin
      · exact hkept grant.link (h.granted grant hin)
      · rw [hgrants grant hin]
        exact hkept link.id hsome
    · rcases List.mem_append.mp hin with hin | hin
      · exact hkept act.link (h.acted act hin)
      · rw [hacts act hin]
        exact hkept link.id hsome
  | mark picked change now hopen =>
    have hkept : ∀ id, (book.links.find? id).isSome →
        ((book.links.update (fun link => link.id ∈ picked) (change.mark now)
          (change.id_mark now)).find? id).isSome :=
      fun id hsome => Table.isSome_find?_update.trans hsome
    refine ⟨fun id row hrow => ?_, fun id hin => hkept id (h.mistaken id hin),
      fun grant hin => hkept _ (h.granted grant hin), fun act hin => hkept _ (h.acted act hin)⟩
    rw [Table.find?_update] at hrow
    obtain ⟨old, hold, hrow⟩ := Option.map_eq_some_iff.mp hrow
    have hsound := h.link id old hold
    split at hrow
    · next hin =>
      cases hrow
      rw [Table.key_of_find? hold] at hin
      have hmarked := hsound.step (.mark change now (hopen id old hin hold)) book.links
      exact hmarked.of_same rfl rfl rfl (fun hopen => hopen) (.inr ⟨rfl, rfl⟩) (by simp) (by simp)
        (by simp)
    · cases hrow
      exact hsound.of_same rfl rfl rfl (fun hopen => hopen) (.inr ⟨rfl, rfl⟩) rfl rfl
        fun grant hin => hin
  | insert link links hinsert hblank =>
    have hnone := (Table.insert_eq_some hinsert).1
    have hkept : ∀ id, (book.links.find? id).isSome → (links.find? id).isSome :=
      fun id hsome => Table.isSome_find?_insert hinsert hsome
    refine ⟨fun id row hrow => ?_, fun id hin => hkept id (h.mistaken id hin),
      fun grant hin => hkept _ (h.granted grant hin), fun act hin => hkept _ (h.acted act hin)⟩
    rw [Table.find?_insert hinsert] at hrow
    split at hrow
    · cases hrow
      have hnew : ∀ id, (book.links.find? id).isSome → id ≠ link.id := by
        rintro id hsome rfl
        rw [hnone] at hsome
        cases hsome
      have hcount : book.mistakes.count link.id = 0 :=
        List.count_eq_zero.mpr fun hin => hnew _ (h.mistaken _ hin) rfl
      have hnil : actsOf book.acts link.id = [] := by
        refine List.filter_eq_nil_iff.mpr fun act hin hpicked => hnew _ (h.acted act hin) ?_
        exact of_decide_eq_true hpicked
      have hattempts := hblank.attempts
      refine ⟨hcount.trans hattempts.symm, ?_, fun _ => ?_, ?_, fun hash hhash => ?_⟩
      · rw [hattempts]
        exact Nat.zero_le _
      · rw [hattempts]
        decide
      · rw [hnil, hblank.consumed]
        rfl
      · rw [hblank.authorization] at hhash
        cases hhash
    · exact (h.link id row hrow).of_same rfl rfl rfl (fun hopen => hopen) (.inr ⟨rfl, rfl⟩) rfl rfl
        fun grant hin => hin

/-- A link that is closed stays closed as it was, and nothing more is kept beside it. -/
def Stays (before after : Book) : Prop :=
  ∀ id link, before.links.find? id = some link → ¬link.IsOpen →
    (∃ link', after.links.find? id = some link' ∧ link'.consumedAt = link.consumedAt ∧
      link'.invalidatedAt = link.invalidatedAt) ∧
      after.mistakes.count id = before.mistakes.count id ∧
      grantsOf after.grants id = grantsOf before.grants id ∧
      actsOf after.acts id = actsOf before.acts id

theorem Stays.refl (book : Book) : Stays book book :=
  fun _ link hfound _ => ⟨⟨link, hfound, rfl, rfl⟩, rfl, rfl, rfl⟩

theorem Stays.trans {first second third : Book} (h : Stays first second) (h' : Stays second third) :
    Stays first third := by
  intro id link hfound hclosed
  obtain ⟨⟨link', hfound', hconsumed, hinvalidated⟩, hcount, hgrants, hacts⟩ :=
    h id link hfound hclosed
  have hclosed' : ¬link'.IsOpen := by
    unfold SigningLink.IsOpen
    rw [hconsumed, hinvalidated]
    exact hclosed
  obtain ⟨⟨link'', hfound'', hconsumed', hinvalidated'⟩, hcount', hgrants', hacts'⟩ :=
    h' id link' hfound' hclosed'
  exact ⟨⟨link'', hfound'', hconsumed'.trans hconsumed, hinvalidated'.trans hinvalidated⟩,
    hcount'.trans hcount, hgrants'.trans hgrants, hacts'.trans hacts⟩

theorem BookStep.stays (hstep : BookStep book book') : Stays book book' := by
  intro id row hrow hclosed
  cases hstep with
  | write link change hid mistakes grants acts hfound hstep =>
    by_cases hsame : id = link.id
    · subst hsame
      rw [hfound] at hrow
      cases hrow
      obtain ⟨hconsumed, hinvalidated, rfl, rfl, rfl⟩ := hstep.closed hclosed
      refine ⟨⟨change row, ?_, hconsumed, hinvalidated⟩, by simp, by simp, by simp⟩
      exact @Table.find?_update_of_picked _ _ _ _ book.links row _ _ _ change hid hfound rfl
    · obtain ⟨hmistakes, hgrants, hacts⟩ := hstep.about
      refine ⟨⟨row, ?_, rfl, rfl⟩, count_append_of_ne hmistakes hsame, ?_, ?_⟩
      · refine @Table.find?_update_of_unpicked _ _ _ _ book.links row _ _ _ change hid hrow ?_
        rw [Table.key_of_find? hrow]
        exact hsame
      · rw [grantsOf_append, grantsOf_eq_nil hgrants hsame, List.append_nil]
      · rw [actsOf_append, actsOf_eq_nil hacts hsame, List.append_nil]
  | mark picked change now hopen =>
    have hunpicked : row.id ∉ picked := by
      rw [Table.key_of_find? hrow]
      exact fun hin => hclosed (hopen id row hin hrow)
    refine ⟨⟨row, ?_, rfl, rfl⟩, rfl, rfl, rfl⟩
    exact @Table.find?_update_of_unpicked _ _ _ _ book.links row _ _ _ (change.mark now)
      (change.id_mark now) hrow hunpicked
  | insert link links hinsert hblank =>
    refine ⟨⟨row, ?_, rfl, rfl⟩, rfl, rfl, rfl⟩
    have hnone := (Table.insert_eq_some hinsert).1
    rw [Table.find?_insert hinsert, if_neg]
    · exact hrow
    · intro hid
      rw [hid, hrow] at hnone
      cases hnone

end BookStep

/-! ### Transactions -/

section Transactions

variable {ι : Type} {platform : Platform}

/-- A transaction has a link locked, and its row is as it was read. -/
structure Owns (i : ι) (store : Store ι) (link : SigningLink) : Prop where
  lock : store.linkLocks link.id = some i
  row : store.links.find? link.id = some link

/-- The link was open, had not expired, and it was the turn of its person. -/
structure IsReady (checked : Checked) : Prop where
  isOpen : checked.link.IsOpen
  expires : ∃ expiresAt ∈ checked.link.expiresAt, checked.checkedAt < expiresAt
  pending : checked.turn.status = .pending
  order : checked.turn.signOrder = checked.link.signOrder
  person : checked.turn.signerPersonId = some checked.link.personId
  byMail : requiresMfa checked.turn.role = false

/-- It is the turn of the link in the envelope of the document. -/
def IsNext (store : Store ι) (link : SigningLink) : Prop :=
  ∃ envelope ∈ store.provider.envelopes, some envelope.id = store.document.signatureReference ∧
    ∃ signer, nextSigner envelope link.signOrder link.personId.text = .ok signer

/-- What holds of a transaction at each point. -/
def Working (platform : Platform) (i : ι) (store : Store ι) : Phase → Prop
  | .idle => True
  | .locked _ link => Owns i store link
  | .statusRead _ link _ => Owns i store link
  | .active _ checked => Owns i store checked.link ∧ IsReady checked
  | .authorized request checked reference authorizedAt =>
    Owns i store checked.link ∧ IsReady checked ∧
      IsAuthorized platform checked.link request.identityToken authorizedAt ∧
      store.document.signatureReference = some reference
  | .performed request checked authorizedAt _ =>
    Owns i store checked.link ∧ IsReady checked ∧
      IsAuthorized platform checked.link request.identityToken authorizedAt ∧
      store.envelopeLock = some i ∧ IsNext store checked.link
  | .changing _ picked envelopes =>
    store.documentLock = some i ∧ (envelopes.isSome → store.envelopeLock = some i) ∧
      ∀ ids ∈ picked, ∀ id ∈ ids, store.linkLocks id = some i ∧
        ∃ link, store.links.find? id = some link ∧ link.IsOpen
  | .syncing _ => True
  | .dispatching _ _ => True

/-- What holds when a signature or a rejection through a link is committed. -/
structure Consumes (platform : Platform) (store : Store ι) (act : LinkAct) : Prop where
  link : ∃ link, store.links.find? act.link = some link ∧ link.IsOpen ∧
    (∃ expiresAt ∈ link.expiresAt, act.checkedAt < expiresAt) ∧
    act.turn.signOrder = link.signOrder ∧ act.turn.signerPersonId = some link.personId ∧
    act.turn.status = .pending ∧ IsNext store link
  grant : ∃ grant ∈ store.grants, grant.link = act.link ∧
    grant.hash = platform.sha256Hex act.identityToken ∧ act.authorizedAt < grant.expiresAt

/-- What a statement leaves to the other transactions. -/
structure Frame (i : ι) (store store' : Store ι) : Prop where
  linkLocks : ∀ id k, k ≠ i → store.linkLocks id = some k → store'.linkLocks id = some k
  documentLock : ∀ k, k ≠ i → store.documentLock = some k → store'.documentLock = some k
  envelopeLock : ∀ k, k ≠ i → store.envelopeLock = some k → store'.envelopeLock = some k
  links : ∀ id k link, k ≠ i → store.linkLocks id = some k → store.links.find? id = some link →
    store'.links.find? id = some link
  envelopes : ∀ k, k ≠ i → store.envelopeLock = some k →
    store'.provider.envelopes = store.provider.envelopes
  reference : store'.document.signatureReference = store.document.signatureReference

/-- What a statement of a transaction does. -/
structure Advance (platform : Platform) (i : ι) (store store' : Store ι) (phase' : Phase) : Prop where
  steps : Relation.ReflTransGen BookStep store.book store'.book
  acts : store'.acts = store.acts ∨
    ∃ act, store'.acts = store.acts ++ [act] ∧ Consumes platform store act
  frame : Frame i store store'
  working : Working platform i store' phase'

section Steps

variable {i : ι} {store store' : Store ι} {phase phase' : Phase}

theorem IsNext.congr {link : SigningLink} (h : IsNext store link)
    (henvelopes : store'.provider.envelopes = store.provider.envelopes)
    (hreference : store'.document.signatureReference = store.document.signatureReference) :
    IsNext store' link := by
  unfold IsNext
  rw [henvelopes, hreference]
  exact h

theorem Owns.other {k : ι} {link : SigningLink} (h : Owns k store link) (hik : k ≠ i)
    (hframe : Frame i store store') : Owns k store' link :=
  ⟨hframe.linkLocks _ k hik h.lock, hframe.links _ k _ hik h.lock h.row⟩

/-- What a statement of one transaction leaves of what holds of another. -/
theorem Working.other {k : ι} {other : Phase} (h : Working platform k store other) (hik : k ≠ i)
    (hframe : Frame i store store') : Working platform k store' other := by
  cases other with
  | idle => trivial
  | syncing statuses => trivial
  | dispatching id hash => trivial
  | locked request link => exact Owns.other h hik hframe
  | statusRead request link status => exact Owns.other h hik hframe
  | active request checked => exact ⟨h.1.other hik hframe, h.2⟩
  | authorized request checked reference authorizedAt =>
    exact ⟨h.1.other hik hframe, h.2.1, h.2.2.1, hframe.reference.trans h.2.2.2⟩
  | performed request checked authorizedAt envelopes =>
    obtain ⟨howns, hready, hauthorized, hlock, hnext⟩ := h
    exact ⟨howns.other hik hframe, hready, hauthorized, hframe.envelopeLock k hik hlock,
      hnext.congr (hframe.envelopes k hik hlock) hframe.reference⟩
  | changing change picked envelopes =>
    obtain ⟨hdocument, henvelope, hpicked⟩ := h
    refine ⟨hframe.documentLock k hik hdocument,
      fun hsome => hframe.envelopeLock k hik (henvelope hsome), fun ids hids id hin => ?_⟩
    obtain ⟨hlock, link, hfound, hopen⟩ := hpicked ids hids id hin
    exact ⟨hframe.linkLocks id k hik hlock, link, hframe.links id k link hik hlock hfound, hopen⟩

theorem Frame.refl (i : ι) (store : Store ι) : Frame i store store :=
  ⟨fun _ _ _ h => h, fun _ _ h => h, fun _ _ h => h, fun _ _ _ _ _ h => h, fun _ _ _ => rfl, rfl⟩

/-- A statement that only reads. -/
theorem Advance.read (hworking : Working platform i store phase') :
    Advance platform i store store phase' :=
  ⟨.refl, .inl rfl, Frame.refl i store, hworking⟩

/-- A link in a row that a transaction may change is not one of the others. -/
theorem frame_updateLink {id : RowId} {change : SigningLink → SigningLink}
    {hid : ∀ link, (change link).id = link.id} (hfree : ∀ k, store.linkLocks id = some k → k = i) :
    Frame i store (store.updateLink id change hid) := by
  refine ⟨fun _ _ _ h => h, fun _ _ h => h, fun _ _ h => h, fun other k link hk hlock hfound => ?_,
    fun _ _ _ => rfl, rfl⟩
  refine @Table.find?_update_of_unpicked _ _ _ _ store.links link _ _ _ change hid hfound ?_
  rw [Table.key_of_find? hfound]
  rintro rfl
  exact hk (hfree k hlock)

/-- One row of the links is written. -/
theorem bookStep_updateLink {link : SigningLink} {change : SigningLink → SigningLink}
    (hid : ∀ link, (change link).id = link.id) {mistakes : List RowId} {grants : List Grant}
    {acts : List LinkAct} (hfound : store.links.find? link.id = some link)
    (hstep : LinkStep link change mistakes grants acts) (hafter : store'.book =
      ⟨store.links.update (fun other => other.id = link.id) change hid, store.mistakes ++ mistakes,
        store.grants ++ grants, store.acts ++ acts⟩) :
    Relation.ReflTransGen BookStep store.book store'.book :=
  hafter ▸ .single (.write link change hid mistakes grants acts hfound hstep)

theorem isReady_of_active {link : SigningLink} {status : DocumentStatus}
    {slots : List DocumentSignature} {turn : DocumentSignature} {now : ℤ}
    (hturn : currentTurn status slots = some turn)
    (hactive : linkStatus link (some turn) now = .active) : IsReady ⟨link, turn, now⟩ := by
  have hpending : turn.status = .pending := by
    unfold currentTurn at hturn
    split at hturn
    · cases hturn
    · have hfirst := List.find?_some hturn
      exact of_decide_eq_true hfirst
  unfold linkStatus linkState at hactive
  split_ifs at hactive with hconsumed hinvalidated hexpired hturns
  swap
  · cases hdelivery : link.deliveryStatus <;> simp [hdelivery] at hactive
  have hopen : link.IsOpen := ⟨by simpa using hconsumed, by simpa using hinvalidated⟩
  have hmatch : turn.signOrder = link.signOrder ∧ turn.signerPersonId = some link.personId ∧
      requiresMfa turn.role = false ∧ link.expiresAt.isSome := by
    simpa using hturns
  obtain ⟨horder, hperson, hrole, hexpires⟩ := hmatch
  obtain ⟨expiresAt, hexpiresAt⟩ := Option.isSome_iff_exists.mp hexpires
  refine ⟨hopen, ⟨expiresAt, hexpiresAt, ?_⟩, hpending, horder, hperson, hrole⟩
  rw [hexpiresAt] at hexpired
  have hlate : ¬expiresAt ≤ now := by simpa using hexpired
  exact Int.not_le.mp hlate

/-- What the provider writes through a link is for the next signer of the envelope. -/
theorem isNext_of_attempt {request : LinkRequest} {link : SigningLink} {reference : String}
    {authorizedAt : ℤ} {now : Instant} {envelopes : List Envelope}
    (hreference : store.document.signatureReference = some reference)
    (hok : (SignatureEnvelope.attempt platform.provider store.provider
      (callOf platform request link reference authorizedAt now)).outcome = .ok envelopes) :
    IsNext store link := by
  have hnext : ∃ envelope ∈ store.provider.envelopes, envelope.id = reference ∧
      ∃ signer, nextSigner envelope link.signOrder link.personId.text = .ok signer := by
    unfold callOf at hok
    cases hdeed : request.deed with
    | sign rubricPng =>
      simp only [hdeed, SignatureEnvelope.attempt, SignatureEnvelope.capture] at hok
      split at hok
      · cases hok
      · split at hok
        · cases hok
        · next target signer current keyInput rubricKey hread =>
          unfold SignatureEnvelope.readForCapture at hread
          obtain ⟨found, hfound, hread⟩ := Fallible.bind_eq_ok hread
          obtain ⟨next, hnext, -⟩ := Fallible.bind_eq_ok hread
          obtain ⟨hin, hid⟩ := SignatureEnvelope.envelope_eq_ok hfound
          exact ⟨found, hin, hid, next, hnext⟩
    | reject reason =>
      simp only [hdeed, SignatureEnvelope.attempt, SignatureEnvelope.reject] at hok
      split at hok
      · cases hok
      · next found hfound =>
        split at hok
        · cases hok
        · next next hnext =>
          obtain ⟨hin, hid⟩ := SignatureEnvelope.envelope_eq_ok hfound
          exact ⟨found, hin, hid, next, hnext⟩
  obtain ⟨envelope, hin, hid, hsigner⟩ := hnext
  exact ⟨envelope, hin, by rw [hid, hreference], hsigner⟩

/-- A change picks open links only. -/
theorem open_of_picks {document : Document} {links : Table SigningLink.id} {change : Change}
    {picked : List RowId} (h : picks document links.rows change = some picked) {id : RowId}
    (hin : id ∈ picked) : ∃ link, links.find? id = some link ∧ link.IsOpen := by
  have hlink : ∃ link ∈ links.rows, link.IsOpen ∧ link.id = id := by
    cases change with
    | refresh candidate =>
      cases h
      obtain ⟨link, hlink, hid⟩ := List.mem_map.mp hin
      obtain ⟨hrows, hpicked⟩ := List.mem_filter.mp hlink
      exact ⟨link, hrows, (of_decide_eq_true hpicked).1, hid⟩
    | resend order candidate actorId =>
      simp only [picks] at h
      split at h
      · cases h
      · split at h
        · cases h
          obtain ⟨link, hlink, hid⟩ := List.mem_map.mp hin
          obtain ⟨hrows, hpicked⟩ := List.mem_filter.mp hlink
          exact ⟨link, hrows, (of_decide_eq_true hpicked).1, hid⟩
        · cases h
    | reassign order personId =>
      simp only [picks] at h
      split at h
      · cases h
        obtain ⟨link, hlink, hid⟩ := List.mem_map.mp hin
        obtain ⟨hrows, hpicked⟩ := List.mem_filter.mp hlink
        exact ⟨link, hrows, (of_decide_eq_true hpicked).1, hid⟩
      · cases h
    | void =>
      cases h
      obtain ⟨link, hlink, hid⟩ := List.mem_map.mp hin
      obtain ⟨hrows, hpicked⟩ := List.mem_filter.mp hlink
      exact ⟨link, hrows, of_decide_eq_true hpicked, hid⟩
  obtain ⟨link, hrows, hopen, rfl⟩ := hlink
  exact ⟨link, Table.find?_of_mem hrows, hopen⟩

/-- A link that a change adds has not been used. -/
theorem isBlank_of_added {document : Document} {links : List SigningLink} {newId : RowId}
    {change : Change} {link : SigningLink} (h : added document links newId change = some link) :
    IsBlank link := by
  cases change with
  | refresh candidate =>
    simp only [added] at h
    obtain ⟨turn, -, h⟩ := Option.bind_eq_some_iff.mp h
    obtain ⟨personId, -, h⟩ := Option.bind_eq_some_iff.mp h
    obtain ⟨read, -, h⟩ := Option.bind_eq_some_iff.mp h
    obtain ⟨email, -, h⟩ := Option.bind_eq_some_iff.mp h
    split at h
    · cases h
      exact ⟨rfl, rfl, rfl⟩
    · cases h
  | resend order candidate actorId =>
    simp only [added] at h
    obtain ⟨turn, -, h⟩ := Option.bind_eq_some_iff.mp h
    obtain ⟨personId, -, h⟩ := Option.bind_eq_some_iff.mp h
    obtain ⟨read, -, h⟩ := Option.bind_eq_some_iff.mp h
    obtain ⟨email, -, h⟩ := Option.bind_eq_some_iff.mp h
    cases h
    exact ⟨rfl, rfl, rfl⟩
  | reassign order personId => cases h
  | void => cases h

theorem reference_documentOf (document : Document) (change : Change) :
    (documentOf document change).signatureReference = document.signatureReference := by
  cases change with
  | void =>
    simp only [documentOf, voidedDocument]
    split <;> rfl
  | _ => rfl

theorem reference_syncedDocument (statuses : List SignerStatus) (failure : Option Assets.Failure)
    (document : Document) :
    (syncedDocument statuses failure document).signatureReference = document.signatureReference := by
  unfold syncedDocument
  cases failure <;> simp only <;> split <;> rfl

/-- A lock that nobody else has is taken. -/
theorem Advance.lockLink {link : SigningLink} {request : Request}
    (hfree : Free (store.linkLocks link.id) i) (hrow : store.links.find? link.id = some link) :
    Advance platform i store
      { store with linkLocks := Function.update store.linkLocks link.id (some i) }
      (.locked request link) := by
  refine ⟨.refl, .inl rfl, ⟨fun id k hk hlock => ?_, fun _ _ h => h, fun _ _ h => h,
    fun _ _ _ _ _ h => h, fun _ _ _ => rfl, rfl⟩, Function.update_self .., hrow⟩
  by_cases hid : id = link.id
  · rw [hid] at hlock
    exact absurd (hfree k hlock) hk
  · exact (Function.update_of_ne hid _ _).trans hlock

/-- The envelope is locked, with the files that the provider has put. -/
theorem Advance.lockEnvelope {files : List SignatureEnvelope.PutObject}
    (hfree : Free store.envelopeLock i)
    (hworking : Working platform i { store.put files with envelopeLock := some i } phase') :
    Advance platform i store { store.put files with envelopeLock := some i } phase' :=
  ⟨.refl, .inl rfl, ⟨fun _ _ _ h => h, fun _ _ h => h,
    fun k hk hlock => absurd (hfree k hlock) hk, fun _ _ _ _ _ h => h, fun _ _ _ => rfl, rfl⟩,
    hworking⟩

theorem Advance.updateLink {link : SigningLink} {change : SigningLink → SigningLink}
    {hid : ∀ link, (change link).id = link.id} (hfree : Free (store.linkLocks link.id) i)
    (hrow : store.links.find? link.id = some link) (hstep : LinkStep link change [] [] [])
    (hworking : Working platform i (store.updateLink link.id change hid) phase') :
    Advance platform i store (store.updateLink link.id change hid) phase' := by
  refine ⟨bookStep_updateLink hid hrow hstep ?_, .inl rfl,
    frame_updateLink fun k hlock => hfree k hlock, hworking⟩
  rw [List.append_nil, List.append_nil, List.append_nil]
  rfl

variable [DecidableEq ι]

theorem filter_of_ne {lock : Option ι} {k : ι} (hk : k ≠ i) (hlock : lock = some k) :
    (lock.filter fun other => other ≠ i) = some k := by
  rw [hlock]
  simp [Option.filter, hk]

/-- The locks that are given back are the transaction's own. -/
theorem Frame.release (h : Frame i store store') : Frame i store (store'.release i) :=
  ⟨fun id k hk hlock => filter_of_ne hk (h.linkLocks id k hk hlock),
    fun k hk hlock => filter_of_ne hk (h.documentLock k hk hlock),
    fun k hk hlock => filter_of_ne hk (h.envelopeLock k hk hlock), h.links, h.envelopes,
    h.reference⟩

/-- A transaction that is given up, whatever files it has put. -/
theorem Advance.abort (files : List SignatureEnvelope.PutObject) :
    Advance platform i store ((store.put files).release i) .idle := by
  have hframe : Frame i store (store.put files) :=
    ⟨fun _ _ _ h => h, fun _ _ h => h, fun _ _ h => h, fun _ _ _ _ _ h => h, fun _ _ _ => rfl, rfl⟩
  exact ⟨.refl, .inl rfl, hframe.release, trivial⟩

theorem Advance.giveUp : Advance platform i store (store.release i) .idle :=
  ⟨.refl, .inl rfl, (Frame.refl i store).release, trivial⟩

/-- A request writes into the link that it owns, and gives its locks back. -/
theorem Advance.answer {link : SigningLink} {change : SigningLink → SigningLink}
    (hid : ∀ link, (change link).id = link.id) {mistakes : List RowId} {grants : List Grant}
    (howns : Owns i store link) (hstep : LinkStep link change mistakes grants [])
    (hstored : store' = { store.updateLink link.id change hid with
      mistakes := store.mistakes ++ mistakes
      grants := store.grants ++ grants }) : Advance platform i store (store'.release i) .idle := by
  subst hstored
  have hframe : Frame i store (store.updateLink link.id change hid) :=
    frame_updateLink fun k hlock => Option.some.inj (hlock.symm.trans howns.lock)
  have hafter : Frame i store { store.updateLink link.id change hid with
      mistakes := store.mistakes ++ mistakes
      grants := store.grants ++ grants } :=
    ⟨hframe.linkLocks, hframe.documentLock, hframe.envelopeLock, hframe.links, hframe.envelopes,
      hframe.reference⟩
  refine ⟨bookStep_updateLink hid howns.row hstep ?_, .inl rfl, hafter.release, trivial⟩
  rw [List.append_nil]
  rfl

theorem Advance.consume {request : LinkRequest} {checked : Checked} {authorizedAt now : ℤ}
    {envelopes : List Envelope} (hsound : Sound store.book)
    (hworking : Working platform i store (.performed request checked authorizedAt envelopes)) :
    Advance platform i store
      ((store.consume request checked authorizedAt envelopes now).release i) .idle := by
  obtain ⟨howns, hready, hauthorized, hlock, hnext⟩ := hworking
  have hframe : Frame i store (store.updateLink checked.link.id
      (SigningLink.consumed request.deed.action now) fun _ => rfl) :=
    frame_updateLink fun k hk => Option.some.inj (hk.symm.trans howns.lock)
  have hafter : Frame i store (store.consume request checked authorizedAt envelopes now) :=
    ⟨hframe.linkLocks, hframe.documentLock, hframe.envelopeLock, hframe.links,
      fun k hk hother => absurd (Option.some.inj (hother.symm.trans hlock)) hk, rfl⟩
  have hgrant : ∃ grant ∈ store.grants, grant.link = checked.link.id ∧
      grant.hash = platform.sha256Hex request.identityToken ∧ authorizedAt < grant.expiresAt := by
    obtain ⟨-, hhash, expiresAt, hexpires, hlate⟩ := hauthorized
    have hsoundLink := hsound.link checked.link.id checked.link howns.row
    exact ⟨_, hsoundLink.authorized _ hhash expiresAt hexpires, rfl, rfl, hlate⟩
  have hact : Consumes platform store ⟨checked.link.id, request.deed.action, request.identityToken,
      checked.turn, checked.checkedAt, authorizedAt⟩ :=
    ⟨⟨checked.link, howns.row, hready.isOpen, hready.expires, hready.order, hready.person,
      hready.pending, hnext⟩, hgrant⟩
  have hid : ∀ link : SigningLink, (link.consumed request.deed.action now).id = link.id :=
    fun _ => rfl
  refine ⟨?_, .inr ⟨_, rfl, hact⟩, hafter.release, trivial⟩
  refine bookStep_updateLink hid howns.row
    (.consume request.deed.action now ⟨checked.link.id, request.deed.action, request.identityToken,
      checked.turn, checked.checkedAt, authorizedAt⟩ rfl hready.isOpen) ?_
  rw [List.append_nil, List.append_nil]
  rfl

/-- A change marks the links that it has locked, and may add one. -/
theorem Advance.commitChange {change : Change} {picked : List RowId}
    {envelopes : Option (List Envelope)} {links : Table SigningLink.id} {now : ℤ}
    (hworking : Working platform i store (.changing change (some picked) envelopes))
    (hlinks : links = store.marked change picked now ∨
      ∃ link, (store.marked change picked now).insert link = some links ∧ IsBlank link) :
    Advance platform i store ((store.commitChange change links envelopes).release i) .idle := by
  obtain ⟨-, henvelope, hpicked⟩ := hworking
  have hown := hpicked picked rfl
  have hmark : BookStep store.book
      ⟨store.marked change picked now, store.mistakes, store.grants, store.acts⟩ := by
    refine .mark picked change now fun id link hin hfound => ?_
    obtain ⟨-, other, hother, hopen⟩ := hown id hin
    rw [show store.book.links.find? id = some other from hother] at hfound
    cases hfound
    exact hopen
  have hkept : ∀ id k link, k ≠ i → store.linkLocks id = some k →
      store.links.find? id = some link → (store.marked change picked now).find? id = some link := by
    intro id k link hk hlock hfound
    refine @Table.find?_update_of_unpicked _ _ _ _ store.links link _ _ _ (change.mark now)
      (change.id_mark now) hfound ?_
    rw [Table.key_of_find? hfound]
    intro hin
    exact hk (Option.some.inj (hlock.symm.trans (hown id hin).1))
  have hsteps : Relation.ReflTransGen BookStep store.book
      ⟨links, store.mistakes, store.grants, store.acts⟩ := by
    rcases hlinks with rfl | ⟨link, hinsert, hblank⟩
    · exact .single hmark
    · exact .tail (.single hmark) (.insert link links hinsert hblank)
  have hfound : ∀ id k link, k ≠ i → store.linkLocks id = some k →
      store.links.find? id = some link → links.find? id = some link := by
    intro id k link hk hlock hrow
    have hmarked := hkept id k link hk hlock hrow
    rcases hlinks with rfl | ⟨new, hinsert, -⟩
    · exact hmarked
    · have hnone := (Table.insert_eq_some hinsert).1
      rw [Table.find?_insert hinsert, if_neg]
      · exact hmarked
      · intro hid
        rw [hid, hmarked] at hnone
        cases hnone
  have hafter : Frame i store (store.commitChange change links envelopes) := by
    refine ⟨fun _ _ _ h => h, fun _ _ h => h, fun _ _ h => h, hfound, fun k hk hlock => ?_,
      reference_documentOf store.document change⟩
    cases envelopes with
    | none => rfl
    | some envelopes =>
      exact absurd (Option.some.inj (hlock.symm.trans (henvelope rfl))) hk
  exact ⟨hsteps, .inl rfl, hafter.release, trivial⟩

theorem program_advances {statement : Statement}
    (h : program platform i statement store phase = some (store', phase'))
    (hsound : Sound store.book) (hworking : Working platform i store phase) :
    Advance platform i store store' phase' := by
  unfold program at h
  split at h
  · next request token =>
    split at h
    · cases h
      exact .read trivial
    · next link hfound =>
      split at h
      · next hfree =>
        cases h
        exact .lockLink hfree (Table.find?_of_mem (List.mem_of_find?_eq_some hfound))
      · cases h
  · cases h
    exact .read hworking
  · next now request link status =>
    split at h
    · cases h
      exact .giveUp
    · next turn hturn =>
      split at h
      · next hactive =>
        cases h
        exact .read ⟨hworking, isReady_of_active hturn hactive⟩
      · cases h
        exact .giveUp
  · next documentNumber identityToken now last4 checked =>
    obtain ⟨howns, hready⟩ := hworking
    split at h
    · cases h
      exact .giveUp
    · split at h
      · cases h
        have hid : ∀ link : SigningLink, (link.mistaken now).id = link.id := fun _ => rfl
        exact .answer hid howns (.mistake now hready.isOpen) (by simp [Store.mistake, Store.updateLink])
      · cases h
        have hid : ∀ link : SigningLink,
            (link.confirmed (platform.sha256Hex identityToken) now).id = link.id := fun _ => rfl
        exact .answer hid howns (.confirm _ now hready.isOpen)
          (by simp [Store.confirm, Store.updateLink])
  · next now request checked =>
    obtain ⟨howns, hready⟩ := hworking
    split at h
    · cases h
      exact .giveUp
    · next reference hreference =>
      split at h
      · next hauthorized =>
        cases h
        exact .read ⟨howns, hready, hauthorized, hreference⟩
      · cases h
        exact .giveUp
  · next now cut request checked reference authorizedAt =>
    obtain ⟨howns, hready, hauthorized, hreference⟩ := hworking
    simp only at h
    split at h
    · next hfree =>
      split at h
      · next envelopes hok =>
        cases h
        refine .lockEnvelope hfree ⟨⟨howns.lock, howns.row⟩, hready, hauthorized, rfl, ?_⟩
        exact (isNext_of_attempt hreference hok).congr rfl rfl
      · cases h
        exact .abort _
      · cases h
        exact .abort _
    · cases h
  · cases h
    exact .consume hsound hworking
  · next change =>
    split at h
    · next hfree =>
      cases h
      refine ⟨.refl, .inl rfl, ⟨fun _ _ _ h => h, fun k hk hlock => absurd (hfree k hlock) hk,
        fun _ _ h => h, fun _ _ _ _ _ h => h, fun _ _ _ => rfl, rfl⟩, rfl, ?_, ?_⟩
      · intro hnone
        cases hnone
      · intro ids hnone
        cases hnone
    · cases h
  · next change envelopes =>
    obtain ⟨hdocument, henvelope, -⟩ := hworking
    split at h
    · cases h
    · split at h
      · cases h
        exact .giveUp
      · next picked hpicked =>
        split at h
        · next hfree =>
          cases h
          refine ⟨.refl, .inl rfl, ⟨fun id k hk hlock => ?_, fun _ _ h => h, fun _ _ h => h,
            fun _ _ _ _ _ h => h, fun _ _ _ => rfl, rfl⟩, hdocument, henvelope, ?_⟩
          · have hunpicked : id ∉ picked := fun hin => hk (hfree id hin k hlock)
            exact (if_neg hunpicked).trans hlock
          · rintro _ ⟨⟩ id hin
            exact ⟨if_pos hin, open_of_picks hpicked hin⟩
        · cases h
  · next input now =>
    obtain ⟨hdocument, -, -⟩ := hworking
    split at h
    · cases h
      exact .giveUp
    · split at h
      · next hfree =>
        split at h
        · cases h
          refine @Advance.lockEnvelope _ _ _ _ _ [] hfree ⟨hdocument, fun _ => rfl, ?_⟩
          intro ids hnone
          cases hnone
        · cases h
          exact .giveUp
      · cases h
  · next input now order personId picked =>
    obtain ⟨hdocument, -, hpicked⟩ := hworking
    simp only at h
    split at h
    · cases h
    · split at h
      · next hfree =>
        split at h
        · cases h
          exact .lockEnvelope hfree ⟨hdocument, fun _ => rfl, hpicked⟩
        · cases h
          exact .abort _
      · cases h
  · next newId now change picked envelopes =>
    simp only at h
    split at h
    · cases h
    · cases h
      exact .commitChange hworking (.inl rfl)
    · next link _ hadded =>
      split at h
      · split at h
        · cases h
          exact .commitChange hworking (.inl rfl)
        · cases h
          exact .giveUp
      · obtain ⟨inserted, hinsert, heq⟩ := Option.map_eq_some_iff.mp h
        cases heq
        exact .commitChange hworking (.inr ⟨link, hinsert, isBlank_of_added hadded⟩)
  · next event =>
    split at h
    · next hsession =>
      obtain ⟨provider, -, heq⟩ := Option.map_eq_some_iff.mp h
      cases heq
      exact ⟨.refl, .inl rfl, ⟨fun _ _ _ h => h, fun _ _ h => h, fun _ _ h => h,
        fun _ _ _ _ _ h => h, fun k hk hlock => absurd (hsession.2 k hlock) hk, rfl⟩, trivial⟩
    · cases h
  · split at h
    · cases h
      exact .read trivial
    · cases h
      exact .read trivial
  · next failure statuses =>
    split at h
    · cases h
      exact ⟨.refl, .inl rfl, ⟨fun _ _ _ h => h, fun _ _ h => h, fun _ _ h => h,
        fun _ _ _ _ _ h => h, fun _ _ _ => rfl, reference_syncedDocument statuses failure _⟩, trivial⟩
    · cases h
  · next id token now =>
    simp only at h
    split at h
    · cases h
      exact .read trivial
    · next link hfound =>
      have hkey := Table.key_of_find? hfound
      split at h
      · next hdue =>
        split at h
        · cases h
          exact .read trivial
        · cases h
          subst hkey
          exact .updateLink hdue.2 hfound (.dispatch _ now hdue.1.1) trivial
      · cases h
        exact .read trivial
  · next error now id hash =>
    split at h
    · cases h
      exact .read trivial
    · next link hfound =>
      have hkey := Table.key_of_find? hfound
      split at h
      · cases h
      · next hfree =>
        split at h
        · cases h
          subst hkey
          exact .updateLink (not_not.mp hfree) hfound (.deliver error now) trivial
        · cases h
          exact .read trivial
  · cases h
    exact .giveUp
  · cases h

end Steps

/-! ### Runs -/

theorem Sound.steps {book book' : Book} (h : Sound book)
    (hsteps : Relation.ReflTransGen BookStep book book') : Sound book' := by
  induction hsteps with
  | refl => exact h
  | tail _ hstep ih => exact ih.step hstep

theorem stays_of_steps {book book' : Book} (hsteps : Relation.ReflTransGen BookStep book book') :
    Stays book book' := by
  induction hsteps with
  | refl => exact Stays.refl book
  | tail _ hstep ih => exact ih.trans hstep.stays

theorem holds_start (document : Document) (provider : System) :
    Holds (fun store => Sound store.book) (Working platform) (fun _ _ => True)
      (start ι document provider) := by
  refine ⟨⟨?_, ?_, ?_, ?_⟩, fun _ => trivial, fun _ _ _ => trivial⟩
  · intro id link hfound
    cases hfound
  · intro id hin
    cases hin
  · intro grant hin
    cases hin
  · intro act hin
    cases hin

variable [DecidableEq ι]

theorem program_keeps : Keeps (@program ι _ platform) Anyhow (fun store => Sound store.book)
    (Working platform) (fun _ _ => True) where
  symm := fun _ _ _ => trivial
  own := fun _ _ _ _ _ _ _ h hsound hworking =>
    have hadvance := program_advances h hsound hworking
    ⟨hsound.steps hadvance.steps, hadvance.working⟩
  other := fun _ _ _ _ _ _ _ _ hik _ h hsound hworking hother _ =>
    have hadvance := program_advances h hsound hworking
    ⟨hother.other (Ne.symm hik) hadvance.frame, trivial⟩

theorem Sound.mistakes_le {book : Book} (h : Sound book) (id : RowId) :
    book.mistakes.count id ≤ maxIdentityAttempts := by
  by_cases hin : id ∈ book.mistakes
  · obtain ⟨link, hfound⟩ := Option.isSome_iff_exists.mp (h.mistaken id hin)
    have hlink := h.link id link hfound
    have hkey := Table.key_of_find? hfound
    have hcounted := hlink.counted
    have hbounded := hlink.bounded
    rw [hkey] at hcounted
    omega
  · rw [List.count_eq_zero.mpr hin]
    exact Nat.zero_le _

end Transactions

section Samples

def ana : RowId := ⟨"persona-1", by decide⟩

def office : RowId := ⟨"link-1", by decide⟩

/-- A document that waits for one signer. -/
def waitingDocument : Document where
  id := ⟨"acta-1", by decide⟩
  number := "ACTA-1"
  formatKey := "TRASLADO"
  entityType := none
  entityId := none
  status := .pendingSignature
  signatureReference := some "envelope-1"
  lifecycleError := none
  lifecycleAttempts := 0
  signatures := [⟨1, "ENTREGA", some ana, .pending, none⟩]

/-- Its envelope. -/
def waitingProvider : System :=
  ⟨KeyedMap.empty, [⟨"envelope-1", "acta-1", "code", "", "", .project, "", "", .pending,
    [SignatureEnvelope.newSigner ⟨1, "ENTREGA", none, some ana.text, some "Ana", none⟩]⟩],
    KeyedMap.empty, .project⟩

/-- A platform whose hash is the text itself. -/
def plainPlatform : Platform := ⟨id, fun _ => SignatureEnvelope.sampleNoon 0,
  SignatureEnvelope.sampleRuntime⟩

def anaCandidate : SignerCandidate := ⟨true, some "ana@unac.edu.co", some "CC 10203040", none, false⟩

def refusal : LinkRequest := ⟨"identity", .reject "No es mi equipo.", none, none⟩

/-- The signer gets a link, answers wrong and then right, and refuses to sign. -/
def refuseByLink : List (Bool × Statement) :=
  [(true, .lockDocument (.refresh (some anaCandidate))), (true, .pickLinks),
    (true, .commitChange office 0), (true, .dispatch office "token" 0), (true, .deliver none 1000),
    (false, .findByToken (.confirm "9999") "token"), (false, .readStatus), (false, .readTurn 2000),
    (false, .answer (some "CC 10203040") "identity" 2000),
    (false, .findByToken (.confirm "3040") "token"), (false, .readStatus), (false, .readTurn 3000),
    (false, .answer (some "CC 10203040") "identity" 3000),
    (false, .findByToken (.act refusal) "token"), (false, .readStatus), (false, .readTurn 4000),
    (false, .authorize 4000), (false, .perform (SignatureEnvelope.sampleNoon 1) none)]

/-- What the rows of the link and the acts tell. -/
def isUsed (c : Interleaving Bool (Store Bool) Phase) : Bool :=
  c.shared.acts.length = 1 ∧ (c.shared.links.find? office).any fun link => link.consumedAt.isSome

end Samples

end InternalControl.SigningLinks
