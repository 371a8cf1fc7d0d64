import InternalControl.MailOutbox
import Mathlib.Data.List.Perm.Subperm

/-!
# Sent mails over runs of dispatchers

A claim is open until its outcome is stored. While every claim stores its
outcome before the row is claimed again, and no row is claimed more often than
a mail may be tried, a mail that is sent stays sent. Otherwise a late failure
is stored over `SENT`.
-/

namespace InternalControl.MailOutbox

open Interleaving

variable {ι : Type}

/-- A waiting mail is claimed while it may still be tried, and an outcome is stored while its
claim is the last one of the row. -/
def Timely : ι → Statement → Outbox → Dispatcher → Prop
  | _, .claim _ _ _, outbox, .queue (id :: _) => ∀ mail ∈ outbox.mails.find? id,
    mail.deliveryStatus = .pendingSend → mail.sendAttempts < maxOutboxSendAttempts
  | _, .record _, outbox, .delivered id number _ _ => ∀ mail ∈ outbox.mails.find? id,
    mail.sendAttempts = number
  | _, _, _, _ => True

instance (i : ι) (statement : Statement) (outbox : Outbox) (dispatcher : Dispatcher) :
    Decidable (Timely i statement outbox dispatcher) := by
  unfold Timely
  split <;> infer_instance

section Rows

variable {outbox : Outbox} {id other : Uuid} {mail : MailRow} {number : ℕ} {now : ℤ}

/-- A change of one row leaves the others. -/
theorem find?_updateMail {change : MailRow → MailRow} {hid : ∀ mail, (change mail).id = mail.id} :
    (updateMail outbox id change hid).mails.find? other =
      if other = id then (outbox.mails.find? other).map change else outbox.mails.find? other := by
  have hupdate : (updateMail outbox id change hid).mails.find? other =
      (outbox.mails.find? other).map fun mail => if mail.id = id then change mail else mail :=
    @Table.find?_update _ _ _ _ outbox.mails other _ _ change hid
  rw [hupdate]
  cases hfound : outbox.mails.find? other with
  | none => simp
  | some mail =>
    have hkey : mail.id = other := Table.key_of_find? hfound
    simp only [Option.map_some, hkey]
    split <;> rfl

/-- A claim that is open: later ones may exist, and if it is the last one the mail is not sent. -/
def IsOpen (outbox : Outbox) (id : Uuid) (number : ℕ) : Prop :=
  ∃ mail, outbox.mails.find? id = some mail ∧ 1 ≤ number ∧ number ≤ mail.sendAttempts ∧
    (number = mail.sendAttempts → mail.deliveryStatus ≠ .sent)

/-- A mail that is queued does not touch the claims of others. -/
theorem IsOpen.insert (h : IsOpen outbox id number) {row : MailRow} {mails : Table MailRow.id}
    (hinsert : outbox.mails.insert row = some mails) :
    IsOpen { outbox with mails := mails } id number := by
  obtain ⟨mail, hfound, hopen⟩ := h
  have hnew : row.id ≠ id := by
    rintro rfl
    rw [(Table.insert_eq_some hinsert).1] at hfound
    cases hfound
  refine ⟨mail, ?_, hopen⟩
  rw [Table.find?_insert hinsert, if_neg hnew]
  exact hfound

/-- Another claim of the row is a later one. -/
theorem IsOpen.claimed (h : IsOpen outbox id number) :
    IsOpen (storeClaim outbox other now) id number := by
  obtain ⟨mail, hfound, hpos, hle, hlast⟩ := h
  by_cases hid : id = other
  · refine ⟨mail.claimed now, ?_, hpos, ?_, ?_⟩
    · rw [storeClaim, find?_updateMail, if_pos hid, hfound]
      rfl
    · exact hle.trans (Nat.le_succ _)
    · intro hsame
      simp only [MailRow.claimed] at hsame
      omega
  · refine ⟨mail, ?_, hpos, hle, hlast⟩
    rw [storeClaim, find?_updateMail, if_neg hid]
    exact hfound

/-- An outcome that the last claim stores concerns no other claim. -/
theorem IsOpen.settled (h : IsOpen outbox id number) {last : ℕ} {error : Option String}
    (htimely : ∀ mail ∈ outbox.mails.find? other, mail.sendAttempts = last)
    (hne : (other, last) ≠ (id, number)) :
    IsOpen (storeOutcome outbox other error now) id number := by
  obtain ⟨mail, hfound, hpos, hle, hlast⟩ := h
  by_cases hid : id = other
  · subst hid
    have hattempts : mail.sendAttempts = last := htimely mail hfound
    refine ⟨mail.settled error now, ?_, hpos, hle, ?_⟩
    · rw [storeOutcome, find?_updateMail, if_pos rfl, hfound]
      rfl
    · intro hsame
      exact absurd (by rw [hsame, ← hattempts]; rfl) hne
  · refine ⟨mail, ?_, hpos, hle, hlast⟩
    rw [storeOutcome, find?_updateMail, if_neg hid]
    exact hfound

end Rows

/-! ### Invariants -/

/-- The claim that a dispatcher holds. -/
def claimOf : Dispatcher → Option (Uuid × ℕ)
  | .queue _ => none
  | .claimed mail _ => some (mail.id, mail.number)
  | .delivered id number _ _ => some (id, number)

/-- No row was claimed too often, and each claim handed its mail over at most once. -/
structure Sound (outbox : Outbox) : Prop where
  bounded : ∀ id mail, outbox.mails.find? id = some mail →
    mail.sendAttempts ≤ maxOutboxSendAttempts
  counted : ∀ handover ∈ outbox.handed, ∃ mail,
    outbox.mails.find? handover.id = some mail ∧ 1 ≤ handover.claim ∧
      handover.claim ≤ mail.sendAttempts
  once : (outbox.handed.map fun handover => (handover.id, handover.claim)).Nodup

/-- The claim of a dispatcher is open, and before the delivery nothing was handed over for it. -/
def Working (outbox : Outbox) : Dispatcher → Prop
  | .queue _ => True
  | .claimed mail _ => IsOpen outbox mail.id mail.number ∧
    (mail.id, mail.number) ∉ outbox.handed.map fun handover => (handover.id, handover.claim)
  | .delivered id number _ _ => IsOpen outbox id number

/-- Two dispatchers never hold one claim. -/
def Apart (left right : Dispatcher) : Prop :=
  ∀ claim, claimOf left = some claim → claimOf right ≠ some claim

theorem Apart.symm {left right : Dispatcher} (h : Apart left right) : Apart right left :=
  fun claim hright hleft => h claim hleft hright

section Steps

variable {outbox : Outbox} {id : Uuid} {now : ℤ}

theorem Sound.start : Sound ⟨Table.empty, []⟩ :=
  ⟨by simp, by simp, List.nodup_nil⟩

theorem Sound.insert (h : Sound outbox) {entry : MailOutboxEntry} {mails : Table MailRow.id}
    (hinsert : outbox.mails.insert (entry.row id) = some mails) :
    Sound { outbox with mails := mails } := by
  refine ⟨fun other mail hfound => ?_, fun handover hhanded => ?_, h.once⟩
  · rw [Table.find?_insert hinsert] at hfound
    split at hfound
    · cases hfound
      exact Nat.zero_le _
    · exact h.bounded other mail hfound
  · obtain ⟨mail, hfound, hclaim⟩ := h.counted handover hhanded
    have hnew : (entry.row id).id ≠ handover.id := by
      intro hsame
      rw [← hsame, (Table.insert_eq_some hinsert).1] at hfound
      cases hfound
    refine ⟨mail, ?_, hclaim⟩
    rw [Table.find?_insert hinsert, if_neg hnew]
    exact hfound

/-- A change of one row that does not lower its attempts, nor raise them past the bound. -/
theorem Sound.update (h : Sound outbox) {change : MailRow → MailRow}
    {hid : ∀ mail, (change mail).id = mail.id}
    (hle : ∀ mail, mail.sendAttempts ≤ (change mail).sendAttempts)
    (hbound : ∀ mail, outbox.mails.find? id = some mail →
      (change mail).sendAttempts ≤ maxOutboxSendAttempts) :
    Sound (updateMail outbox id change hid) := by
  refine ⟨fun other mail hfound => ?_, fun handover hhanded => ?_, h.once⟩
  · rw [find?_updateMail] at hfound
    split at hfound
    · next hother =>
      subst hother
      obtain ⟨before, hbefore, rfl⟩ := Option.map_eq_some_iff.mp hfound
      exact hbound before hbefore
    · exact h.bounded other mail hfound
  · obtain ⟨mail, hfound, hpos, hclaim⟩ := h.counted handover hhanded
    by_cases hother : handover.id = id
    · refine ⟨change mail, ?_, hpos, hclaim.trans (hle mail)⟩
      rw [find?_updateMail, if_pos hother, hfound]
      rfl
    · refine ⟨mail, ?_, hpos, hclaim⟩
      rw [find?_updateMail, if_neg hother]
      exact hfound

/-- A claim of a mail that is due keeps the row within the bound. -/
theorem claimed_le_max {mail : MailRow} (hdue : mail.IsDue now)
    (htimely : mail.deliveryStatus = .pendingSend → mail.sendAttempts < maxOutboxSendAttempts) :
    (mail.claimed now).sendAttempts ≤ maxOutboxSendAttempts := by
  have hlt : mail.sendAttempts < maxOutboxSendAttempts := by
    rcases hdue.1 with hpending | ⟨-, hlt⟩
    · exact htimely hpending
    · exact hlt
  exact hlt

/-- A delivery hands over at most one mail, for the claim it belongs to. -/
theorem deliver_cases (outbox : Outbox) (mail : Claimed) (delivery : Delivery) :
    (deliver outbox mail delivery).1 = outbox ∨ ∃ sent, (deliver outbox mail delivery).1 =
      { outbox with handed := outbox.handed ++ [⟨mail.id, mail.number, sent⟩] } := by
  unfold deliver
  split
  · exact .inl rfl
  · cases delivery with
    | notReady => exact .inl rfl
    | raised message => exact .inl rfl
    | handed error => exact .inr ⟨_, rfl⟩

theorem Sound.deliver (h : Sound outbox) {mail : Claimed}
    (hopen : IsOpen outbox mail.id mail.number)
    (hfirst : (mail.id, mail.number) ∉ outbox.handed.map fun handover => (handover.id, handover.claim))
    (delivery : Delivery) : Sound (deliver outbox mail delivery).1 := by
  rcases deliver_cases outbox mail delivery with hsame | ⟨sent, hnext⟩
  · rwa [hsame]
  · rw [hnext]
    refine ⟨h.bounded, fun handover hhanded => ?_, ?_⟩
    · rcases List.mem_append.mp hhanded with hhanded | hhanded
      · exact h.counted handover hhanded
      · cases List.mem_singleton.mp hhanded
        obtain ⟨row, hfound, hpos, hle, -⟩ := hopen
        exact ⟨row, hfound, hpos, hle⟩
    · rw [List.map_append, List.nodup_append]
      refine ⟨h.once, List.nodup_singleton _, ?_⟩
      rintro other hother last hlast rfl
      cases List.mem_singleton.mp hlast
      exact hfirst hother

end Steps

/-! ### Runs -/

section Runs

/-- What a statement does: it queues a mail, claims one, delivers one, stores an outcome, or
leaves the outbox alone. -/
inductive Effect (outbox : Outbox) : Statement → Dispatcher → Outbox → Dispatcher → Prop
  | enqueue {id : Uuid} {entry : MailOutboxEntry} {mails : Table MailRow.id}
      {dispatcher : Dispatcher} (hinsert : outbox.mails.insert (entry.row id) = some mails) :
      Effect outbox (.enqueue id entry) dispatcher { outbox with mails := mails } dispatcher
  | wait {statement : Statement} {dispatcher : Dispatcher} {ids : List Uuid} :
      Effect outbox statement dispatcher outbox (.queue ids)
  | claim {now : ℤ} {email fullName : Option String} {id : Uuid} {ids : List Uuid} {mail : MailRow}
      (hfound : outbox.mails.find? id = some mail) (hdue : mail.IsDue now) :
      Effect outbox (.claim now email fullName) (.queue (id :: ids)) (storeClaim outbox id now)
        (.claimed ⟨id, mail.templateType, mail.context, mail.templateVersionId, email, fullName,
          mail.sendAttempts + 1⟩ ids)
  | deliver {delivery : Delivery} {mail : Claimed} {ids : List Uuid} :
      Effect outbox (.deliver delivery) (.claimed mail ids) (deliver outbox mail delivery).1
        (.delivered mail.id mail.number (deliver outbox mail delivery).2 ids)
  | record (now : ℤ) (id : Uuid) (number : ℕ) (error : Option String) (ids : List Uuid) :
      Effect outbox (.record now) (.delivered id number error ids) (storeOutcome outbox id error now)
        (.queue ids)

theorem effect_of_program {i : ι} {statement : Statement} {outbox outbox' : Outbox}
    {dispatcher dispatcher' : Dispatcher}
    (h : program i statement outbox dispatcher = some (outbox', dispatcher')) :
    Effect outbox statement dispatcher outbox' dispatcher' := by
  unfold program at h
  split at h
  · obtain ⟨mails, hinsert, heq⟩ := Option.map_eq_some_iff.mp h
    cases heq
    exact .enqueue hinsert
  · cases h
    exact .wait
  · cases h
    exact .wait
  · split at h
    · cases h
      exact .wait
    · next mail hfound =>
      split at h
      · next hdue =>
        cases h
        exact .claim hfound hdue
      · cases h
        exact .wait
  · cases h
    exact .deliver
  · cases h
    exact .record ..
  all_goals first | (cases h; exact .wait) | cases h

/-- The claim that a dispatcher holds is open. -/
theorem Working.isOpen {outbox : Outbox} {dispatcher : Dispatcher} {id : Uuid} {number : ℕ}
    (h : Working outbox dispatcher) (hclaim : claimOf dispatcher = some (id, number)) :
    IsOpen outbox id number := by
  cases dispatcher with
  | queue ids => cases hclaim
  | claimed mail ids =>
    cases hclaim
    exact h.1
  | delivered id number error ids =>
    cases hclaim
    exact h

/-- A claim opens with a number that no other claim of the row has. -/
theorem isOpen_storeClaim {outbox : Outbox} {id : Uuid} {mail : MailRow} {now : ℤ}
    (hfound : outbox.mails.find? id = some mail) (hdue : mail.IsDue now) :
    IsOpen (storeClaim outbox id now) id (mail.sendAttempts + 1) := by
  refine ⟨mail.claimed now, ?_, Nat.succ_pos _, le_refl _, fun _ hsent => ?_⟩
  · rw [storeClaim, find?_updateMail, if_pos rfl, hfound]
    rfl
  · have hstatus : mail.deliveryStatus = .sent := hsent
    rcases hdue.1 with hpending | ⟨hfailed, -⟩
    · rw [hpending] at hstatus
      cases hstatus
    · rw [hfailed] at hstatus
      cases hstatus

theorem program_keeps : Keeps (@program ι) Timely Sound (fun _ => Working) Apart where
  symm := fun _ _ h => h.symm
  own := by
    intro i statement outbox dispatcher outbox' dispatcher' htimely h hsound hworking
    cases effect_of_program h with
    | enqueue hinsert =>
      refine ⟨hsound.insert hinsert, ?_⟩
      cases dispatcher with
      | queue ids => trivial
      | claimed mail ids => exact ⟨hworking.1.insert hinsert, hworking.2⟩
      | delivered id number error ids => exact IsOpen.insert hworking hinsert
    | wait => exact ⟨hsound, trivial⟩
    | claim hfound hdue =>
      refine ⟨?_, isOpen_storeClaim hfound hdue, ?_⟩
      · refine hsound.update (fun _ => Nat.le_succ _) fun mail hmail => ?_
        rw [hfound] at hmail
        cases hmail
        exact claimed_le_max hdue (htimely _ hfound)
      · intro hin
        obtain ⟨handover, hhanded, heq⟩ := List.mem_map.mp hin
        obtain ⟨mail, hmail, -, hle⟩ := hsound.counted handover hhanded
        obtain ⟨hid, hclaim⟩ := Prod.mk.inj heq
        rw [hid, hfound] at hmail
        cases hmail
        simp only at hclaim
        omega
    | deliver => 
      obtain ⟨hopen, hfirst⟩ := hworking
      refine ⟨hsound.deliver hopen hfirst _, ?_⟩
      rcases deliver_cases outbox _ _ with hsame | ⟨sent, hnext⟩
      · rw [hsame]
        exact hopen
      · rw [hnext]
        exact hopen
    | record now id number error ids =>
      refine ⟨hsound.update (fun _ => le_refl _) fun mail hmail => ?_, trivial⟩
      exact hsound.bounded _ mail hmail
  other := by
    intro i k statement outbox dispatcher outbox' dispatcher' other hik htimely h hsound hworking
      hother hapart
    cases effect_of_program h with
    | enqueue hinsert =>
      refine ⟨?_, hapart⟩
      cases other with
      | queue ids => trivial
      | claimed mail ids => exact ⟨hother.1.insert hinsert, hother.2⟩
      | delivered id number error ids => exact IsOpen.insert hother hinsert
    | wait => exact ⟨hother, by simp [Apart, claimOf]⟩
    | claim hfound hdue =>
      refine ⟨?_, ?_⟩
      · cases other with
        | queue ids => trivial
        | claimed mail ids => exact ⟨hother.1.claimed, hother.2⟩
        | delivered id number error ids => exact IsOpen.claimed hother
      · rintro claim ⟨⟩ hclaim
        obtain ⟨mail, hmail, -, hle, -⟩ := hother.isOpen hclaim
        rw [hfound] at hmail
        cases hmail
        exact absurd hle (Nat.not_succ_le_self _)
    | deliver =>
      refine ⟨?_, hapart⟩
      rcases deliver_cases outbox _ _ with hsame | ⟨sent, hnext⟩
      · rwa [hsame]
      · rw [hnext]
        cases other with
        | queue ids => trivial
        | delivered id number error ids => exact hother
        | claimed mail ids =>
          refine ⟨hother.1, fun hin => ?_⟩
          rw [List.map_append, List.mem_append] at hin
          rcases hin with hin | hin
          · exact hother.2 hin
          · have hsame := List.mem_singleton.mp hin
            exact hapart _ rfl (congrArg some hsame)
    | record now last number error ids =>
      have hlast : ∀ id number, claimOf other = some (id, number) →
          IsOpen (storeOutcome outbox last error now) id number := fun id number hclaim =>
        (hother.isOpen hclaim).settled htimely fun hsame =>
          hapart _ rfl (hclaim.trans (congrArg some hsame.symm))
      refine ⟨?_, by simp [Apart, claimOf]⟩
      cases other with
      | queue ids => trivial
      | claimed mail ids => exact ⟨hlast _ _ rfl, hother.2⟩
      | delivered id number error ids => exact hlast _ _ rfl

/-- The last claim stores its outcome on a mail that is not sent. -/
theorem IsOpen.not_sent {outbox : Outbox} {id : Uuid} {mail : MailRow}
    (hopen : IsOpen outbox id mail.sendAttempts) (hfound : outbox.mails.find? id = some mail) :
    mail.deliveryStatus ≠ .sent := by
  obtain ⟨row, hrow, -, -, hlast⟩ := hopen
  rw [hfound] at hrow
  cases hrow
  exact hlast rfl

/-- A mail that is sent stays sent, and is not claimed again. -/
def SentStays (before after : Outbox) : Prop :=
  ∀ id mail, before.mails.find? id = some mail → mail.deliveryStatus = .sent →
    ∃ mail', after.mails.find? id = some mail' ∧ mail'.deliveryStatus = .sent ∧
      mail'.sendAttempts = mail.sendAttempts

theorem SentStays.refl (outbox : Outbox) : SentStays outbox outbox :=
  fun _ mail hfound hsent => ⟨mail, hfound, hsent, rfl⟩

theorem SentStays.trans {first second third : Outbox} (h : SentStays first second)
    (h' : SentStays second third) : SentStays first third := by
  intro id mail hfound hsent
  obtain ⟨middle, hmiddle, hsentMiddle, hattempts⟩ := h id mail hfound hsent
  obtain ⟨last, hlast, hsentLast, hattemptsLast⟩ := h' id middle hmiddle hsentMiddle
  exact ⟨last, hlast, hsentLast, hattemptsLast.trans hattempts⟩

theorem sentStays_program {i : ι} {statement : Statement} {outbox outbox' : Outbox}
    {dispatcher dispatcher' : Dispatcher} (htimely : Timely i statement outbox dispatcher)
    (h : program i statement outbox dispatcher = some (outbox', dispatcher'))
    (hworking : Working outbox dispatcher) : SentStays outbox outbox' := by
  intro id mail hfound hsent
  cases effect_of_program h with
  | enqueue hinsert =>
    refine ⟨mail, ?_, hsent, rfl⟩
    rw [Table.find?_insert hinsert, if_neg]
    · exact hfound
    · intro hsame
      rw [← hsame, (Table.insert_eq_some hinsert).1] at hfound
      cases hfound
  | wait => exact ⟨mail, hfound, hsent, rfl⟩
  | deliver =>
    rcases deliver_cases outbox _ _ with hsame | ⟨sent, hnext⟩
    · exact ⟨mail, by rw [hsame]; exact hfound, hsent, rfl⟩
    · exact ⟨mail, by rw [hnext]; exact hfound, hsent, rfl⟩
  | claim hclaimed hdue =>
    refine ⟨mail, ?_, hsent, rfl⟩
    rw [storeClaim, find?_updateMail, if_neg]
    · exact hfound
    · rintro rfl
      rw [hfound] at hclaimed
      cases hclaimed
      rcases hdue.1 with hpending | ⟨hfailed, -⟩
      · rw [hpending] at hsent
        cases hsent
      · rw [hfailed] at hsent
        cases hsent
  | record now last number error ids =>
    refine ⟨mail, ?_, hsent, rfl⟩
    rw [storeOutcome, find?_updateMail, if_neg]
    · exact hfound
    · rintro rfl
      have hopen : IsOpen outbox _ mail.sendAttempts := (htimely mail hfound) ▸ hworking
      exact hopen.not_sent hfound hsent

/-- Before the first mail nothing is claimed. -/
theorem holds_start : Holds Sound (fun _ => Working) Apart (start ι) :=
  ⟨Sound.start, fun _ => trivial, fun _ _ _ => by simp [Apart, start, claimOf]⟩

/-- The handovers of one mail. -/
def handoversOf (outbox : Outbox) (id : Uuid) : List Handover :=
  outbox.handed.filter fun handover => handover.id = id

/-- Each claim hands a mail over at most once, and there are no more claims than the bound. -/
theorem Sound.length_handoversOf_le {outbox : Outbox} (h : Sound outbox) (id : Uuid) :
    (handoversOf outbox id).length ≤ maxOutboxSendAttempts := by
  have hnodup : ((handoversOf outbox id).map Handover.claim).Nodup := by
    have hpairs : ((handoversOf outbox id).map fun handover => (handover.id, handover.claim)).Nodup :=
      h.once.sublist (List.filter_sublist.map _)
    have hmap : ((handoversOf outbox id).map fun handover => (handover.id, handover.claim)) =
        ((handoversOf outbox id).map Handover.claim).map fun claim => (id, claim) := by
      rw [List.map_map]
      refine List.map_congr_left fun handover hin => ?_
      have hid : handover.id = id := of_decide_eq_true (List.mem_filter.mp hin).2
      simp only [Function.comp_apply, hid]
    rw [hmap] at hpairs
    exact hpairs.of_map _
  have hsub : (handoversOf outbox id).map Handover.claim ⊆
      List.range' 1 maxOutboxSendAttempts := by
    intro claim hin
    obtain ⟨handover, hhandover, rfl⟩ := List.mem_map.mp hin
    obtain ⟨mail, hfound, hpos, hle⟩ := h.counted handover (List.mem_of_mem_filter hhandover)
    have hbound := h.bounded _ mail hfound
    rw [List.mem_range'_1]
    omega
  have hlength := (List.Nodup.subperm hnodup hsub).length_le
  simpa using hlength

/-- In a run of timely statements no mail is handed over more often than the bound. Once a mail
is sent it stays sent, and every handover of it belongs to a claim made before. -/
theorem sent_stays_of_timely [DecidableEq ι] {c c' : Interleaving ι Outbox Dispatcher}
    (hrun : Run program Timely (start ι) c) (hlater : Run program Timely c c') :
    (∀ id, (handoversOf c'.shared id).length ≤ maxOutboxSendAttempts) ∧
      ∀ id mail, c.shared.mails.find? id = some mail → mail.deliveryStatus = .sent →
        (∃ mail', c'.shared.mails.find? id = some mail' ∧ mail'.deliveryStatus = .sent) ∧
          ∀ handover ∈ handoversOf c'.shared id, handover.claim ≤ mail.sendAttempts := by
  have hbefore := program_keeps.run hrun holds_start
  have hafter := program_keeps.run hlater hbefore
  refine ⟨hafter.shared.length_handoversOf_le, fun id mail hfound hsent => ?_⟩
  have hstays : SentStays c.shared c'.shared :=
    program_keeps.run_related SentStays.refl (fun _ _ _ => SentStays.trans)
      (fun _ _ _ _ _ _ htimely h _ hworking => sentStays_program htimely h hworking) hlater hbefore
  obtain ⟨mail', hfound', hsent', hattempts⟩ := hstays id mail hfound hsent
  refine ⟨⟨mail', hfound', hsent'⟩, fun handover hin => ?_⟩
  obtain ⟨hhanded, hid⟩ := List.mem_filter.mp hin
  obtain ⟨row, hrow, -, hle⟩ := hafter.shared.counted handover hhanded
  rw [of_decide_eq_true hid, hfound'] at hrow
  cases hrow
  exact hattempts ▸ hle

end Runs

/-! ### Runs of two dispatchers -/

section Samples

def notice : MailOutboxEntry := ⟨"IMPORT_FINISHED", [], none⟩

/-- One dispatcher sends the mail and stores that it is sent. -/
def sendOnce : List (Bool × Statement) :=
  [(false, .enqueue "m" notice), (false, .dispatchPending 20 0),
    (false, .claim 0 (some "ana@unac.edu.co") (some "Ana")), (false, .deliver (.handed none)),
    (false, .record 1000)]

/-- Much later another dispatcher looks for mails that are due. -/
def lookAgain : List (Bool × Statement) :=
  [(true, .dispatchPending 20 3600000), (true, .raise_)]

/-- The mail of the row `m` has a status. -/
def hasStatus (status : MailOutboxStatus) (c : Interleaving Bool Outbox Dispatcher) : Bool :=
  (c.shared.mails.find? "m").any fun mail => mail.deliveryStatus = status

theorem sent_stays_of_timely_sendOnce : ∃ c c' : Interleaving Bool Outbox Dispatcher,
    hasStatus .sent c = true ∧ (∀ id, (handoversOf c'.shared id).length ≤ maxOutboxSendAttempts) ∧
      ∀ id mail, c.shared.mails.find? id = some mail → mail.deliveryStatus = .sent →
        (∃ mail', c'.shared.mails.find? id = some mail' ∧ mail'.deliveryStatus = .sent) ∧
          ∀ handover ∈ handoversOf c'.shared id, handover.claim ≤ mail.sendAttempts := by
  obtain ⟨c, c', hrun, hlater, hsent, -⟩ :
      ∃ c c' : Interleaving Bool Outbox Dispatcher, Run program Timely (start Bool) c ∧
        Run program Timely c c' ∧ hasStatus .sent c = true ∧ hasStatus .sent c' = true :=
    exists_run_run sendOnce lookAgain (by decide +kernel)
  exact ⟨c, c', hsent, sent_stays_of_timely hrun hlater⟩

/-- The delivery of the first claim is slow. The mail is claimed again and sent. -/
def slowDelivery : List (Bool × Statement) :=
  [(false, .enqueue "m" notice), (false, .dispatchPending 20 0),
    (false, .claim 0 (some "ana@unac.edu.co") (some "Ana")), (true, .dispatchPending 20 360000),
    (true, .claim 360000 (some "ana@unac.edu.co") (some "Ana")), (true, .deliver (.handed none)),
    (true, .record 361000)]

/-- Then the first delivery fails. -/
def lateFailure : List (Bool × Statement) :=
  [(false, .deliver (.handed (some "Tiempo de espera agotado."))), (false, .record 400000)]

/-- The late failure is stored over `SENT`. -/
theorem sent_is_overwritten :
    ¬∀ c c' : Interleaving Bool Outbox Dispatcher, Run program Anyhow (start Bool) c →
      Run program Anyhow c c' →
        (∀ id, (handoversOf c'.shared id).length ≤ maxOutboxSendAttempts) ∧
          ∀ id mail, c.shared.mails.find? id = some mail → mail.deliveryStatus = .sent →
            (∃ mail', c'.shared.mails.find? id = some mail' ∧ mail'.deliveryStatus = .sent) ∧
              ∀ handover ∈ handoversOf c'.shared id, handover.claim ≤ mail.sendAttempts := by
  intro h
  obtain ⟨c, c', hrun, hlater, hsent, hfailed⟩ :
      ∃ c c' : Interleaving Bool Outbox Dispatcher, Run program Anyhow (start Bool) c ∧
        Run program Anyhow c c' ∧ hasStatus .sent c = true ∧ hasStatus .failed c' = true :=
    exists_run_run slowDelivery lateFailure (by decide +kernel)
  obtain ⟨mail, hmail, hstatus⟩ := (Option.any_eq_true _ _).mp hsent
  obtain ⟨mail', hmail', hstatus'⟩ := (Option.any_eq_true _ _).mp hfailed
  obtain ⟨⟨stays, hstays, hsentStays⟩, -⟩ :=
    (h c c' hrun hlater).2 "m" mail hmail (of_decide_eq_true hstatus)
  rw [hmail'] at hstays
  cases hstays
  rw [of_decide_eq_true hstatus'] at hsentStays
  cases hsentStays

end Samples

end InternalControl.MailOutbox
