import InternalControl.VoidedActs
import InternalControl.RefreshedCopy

/-!
# The slots of a document and those of its envelope

The slots of a document are a copy of those of its envelope. Each signature or
refusal is followed by a sync, and a sync reads what the provider says before
the transaction that writes it. The slots never go back in the runs whose syncs
write nothing that they read before what the slots show.
-/

namespace InternalControl.DocumentEngine

open Assets AssetProcesses Documents Fallible RefreshedCopy
open SignatureEnvelope (Envelope Runtime Call SignatureStatus SignerRow)

/-! ### What the slots show -/

/-- What a slot shows of its signer. -/
def slotStatus (slot : DocumentSignature) : SignerStatus :=
  ⟨slot.signOrder, slot.status, slot.signedAt⟩

/-- What the slots of a document show. -/
def slotStatuses (engine : Engine) (id : RowId) : List SignerStatus :=
  ((findDocument engine id).map fun document => document.signatures.map slotStatus).getD []

/-- What the provider says of the signers of an envelope. -/
def envelopeStatuses (envelopes : List Envelope) (reference : String) : List SignerStatus :=
  ((envelopes.find? fun envelope => envelope.id = reference).map statusesOf).getD []

/-- The orders of some signers. -/
def orders (statuses : List SignerStatus) : List ℕ := statuses.map SignerStatus.order

/-- The signers that have acted are as they were, and one more has acted. -/
structure Ahead (statuses later : List SignerStatus) : Prop where
  orders : orders later = orders statuses
  kept : ∀ status ∈ statuses, status.status ≠ .pending → status ∈ later
  acted : ∃ status ∈ later, status.status ≠ .pending ∧
    ∃ earlier ∈ statuses, earlier.order = status.order ∧ earlier.status = .pending

instance : IsTrans (List SignerStatus) Ahead where
  trans _ _ _ h hlater := by
    obtain ⟨status, hstatus, hsettled, hearlier⟩ := h.acted
    exact ⟨hlater.orders.trans h.orders,
      fun status hstatus hsettled => hlater.kept status (h.kept status hstatus hsettled) hsettled,
      status, hlater.kept status hstatus hsettled, hsettled, hearlier⟩

theorem orders_of_reaches {statuses later : List SignerStatus} (h : Reaches Ahead statuses later) :
    orders later = orders statuses := by
  rcases h with rfl | h
  · rfl
  · exact h.orders

theorem kept_of_reaches {statuses later : List SignerStatus} (h : Reaches Ahead statuses later)
    {status : SignerStatus} (hstatus : status ∈ statuses) (hsettled : status.status ≠ .pending) :
    status ∈ later := by
  rcases h with rfl | h
  · exact hstatus
  · exact h.kept status hstatus hsettled

/-! ### Writing the slots -/

/-- A slot with what the provider says of its signer, when it says something. -/
def slotAfter (statuses : List SignerStatus) (slot : DocumentSignature) : DocumentSignature :=
  match statuses.find? fun status => status.order = slot.signOrder with
  | some status => { slot with status := status.status, signedAt := status.signedAt }
  | none => slot

theorem writeSlots_eq_map {statuses : List SignerStatus} (hnodup : (orders statuses).Nodup)
    (slots : List DocumentSignature) : writeSlots statuses slots = slots.map (slotAfter statuses) := by
  induction statuses generalizing slots with
  | nil => exact (List.map_id' slots).symm
  | cons status rest ih =>
    obtain ⟨hfresh, hrest⟩ := List.nodup_cons.mp hnodup
    have hstep : writeSlots (status :: rest) slots = writeSlots rest (writeSlot slots status) := rfl
    rw [hstep, ih hrest]
    unfold writeSlot
    rw [List.map_map]
    refine List.map_congr_left fun slot _ => ?_
    unfold slotAfter
    by_cases hslot : slot.signOrder = status.order
    · have hnone : (rest.find? fun other => other.order = status.order) = none := by
        rw [List.find?_eq_none]
        intro other hother
        simpa using fun hsame : other.order = status.order =>
          hfresh (hsame ▸ List.mem_map_of_mem hother)
      simp [hslot, hnone]
    · have hother : ¬status.order = slot.signOrder := fun h => hslot h.symm
      simp [hslot, hother]

/-- The signers of a list, found by their orders. -/
theorem map_find?_order {statuses : List SignerStatus} (hnodup : (orders statuses).Nodup) :
    (orders statuses).map (fun order => statuses.find? fun status => status.order = order) =
      statuses.map some := by
  unfold orders
  rw [List.map_map]
  refine List.map_congr_left fun status hstatus => ?_
  rw [Function.comp_apply]
  obtain ⟨found, hfound⟩ : ∃ found, (statuses.find? fun other => other.order = status.order) =
      some found := by
    rw [← Option.isSome_iff_exists, List.find?_isSome]
    exact ⟨status, hstatus, by simp⟩
  have horder : found.order = status.order := by simpa using List.find?_some hfound
  rw [hfound, List.inj_on_of_nodup_map hnodup (List.mem_of_find?_eq_some hfound) hstatus horder]

/-- Slots with the orders of the statuses show them once they are written. -/
theorem map_slotStatus_writeSlots {statuses : List SignerStatus} {slots : List DocumentSignature}
    (hnodup : (orders statuses).Nodup) (horders : orders (slots.map slotStatus) = orders statuses) :
    (writeSlots statuses slots).map slotStatus = statuses := by
  have hsome : ((writeSlots statuses slots).map slotStatus).map some = statuses.map some := by
    rw [← map_find?_order hnodup, ← horders, writeSlots_eq_map hnodup]
    unfold orders
    simp only [List.map_map]
    refine List.map_congr_left fun slot hslot => ?_
    have hmem : slot.signOrder ∈ orders statuses := by
      rw [← horders]
      exact List.mem_map_of_mem (List.mem_map_of_mem hslot)
    obtain ⟨status, hstatus, horder⟩ := List.mem_map.mp hmem
    obtain ⟨found, hfound⟩ : ∃ found,
        (statuses.find? fun other => other.order = slot.signOrder) = some found := by
      rw [← Option.isSome_iff_exists, List.find?_isSome]
      exact ⟨status, hstatus, by simpa using horder⟩
    have hfoundOrder : found.order = slot.signOrder := by simpa using List.find?_some hfound
    have hshown : slotStatus (slotAfter statuses slot) = found := by
      unfold slotAfter slotStatus
      rw [hfound]
      dsimp only
      rw [← hfoundOrder]
    simp only [Function.comp_apply, hshown]
    exact hfound.symm
  exact List.map_injective_iff.mpr (Option.some_injective _) hsome

/-! ### Signatures and refusals -/

/-- A signature or a refusal on an envelope. -/
def IsAct (reference : String) : Call → Prop
  | .capture externalReference _ _ => externalReference = reference
  | .reject externalReference _ _ => externalReference = reference
  | _ => False

/-- What a signature or a refusal does to its envelope: a pending slot is settled. -/
structure Settles (envelopes after : List Envelope) (reference : String) (target : Envelope)
    (slot : SignerRow) (settle : SignerRow → SignerRow) : Prop where
  found : (envelopes.find? fun envelope => envelope.id = reference) = some target
  member : slot ∈ target.signers
  pending : slot.status = .pending
  order : ∀ signer, (settle signer).signOrder = signer.signOrder
  settled : ∀ signer, (settle signer).status ≠ .pending
  after : ∃ change : Envelope → Envelope,
    after = SignatureEnvelope.updateEnvelope envelopes target.id change ∧
      ∀ row, (change row).id = row.id ∧
        (change row).signers = SignatureEnvelope.updateSigner row.signers slot.signOrder settle

theorem find?_of_envelope {envelopes : List Envelope} {reference : String} {target : Envelope}
    (h : SignatureEnvelope.envelope envelopes reference = .ok target) :
    (envelopes.find? fun envelope => envelope.id = reference) = some target := by
  unfold SignatureEnvelope.envelope at h
  split at h
  · next found hfound =>
    obtain rfl := Except.ok.inj h
    exact hfound
  · cases h

/-- The slot of the next signer is pending. -/
theorem pending_of_nextSigner {target : Envelope} {order : ℕ} {personId : String}
    {signer : SignerRow} (h : SignatureEnvelope.nextSigner target order personId = .ok signer) :
    ∃ slot ∈ target.signers, slot.status = .pending ∧ slot.signOrder = order := by
  obtain ⟨_, _, _, first, hfirst, horder⟩ := SignatureEnvelope.nextSigner_eq_ok h
  have hpending : first.status = .pending := by simpa using List.find?_some hfirst
  exact ⟨first, List.mem_of_find?_eq_some hfirst, hpending, horder⟩

theorem capture_settles {runtime : Runtime} {provider : SignatureEnvelope.System}
    {reference : String} {input : SignatureEnvelope.SignatureCapture} {now : Instant}
    {envelopes : List Envelope}
    (h : (SignatureEnvelope.capture runtime provider reference input now).outcome =
      .ok envelopes) :
    ∃ target slot settle, Settles provider.envelopes envelopes reference target slot settle := by
  unfold SignatureEnvelope.capture at h
  split at h
  · cases h
  cases hread : SignatureEnvelope.readForCapture runtime provider reference input with
  | error error =>
    rw [hread] at h
    cases h
  | ok read =>
    obtain ⟨target, signer, current, keyInput, rubricKey⟩ := read
    rw [hread] at h
    dsimp only at h
    split at h
    · cases h
    · have hcommitted := Except.ok.inj h
      unfold SignatureEnvelope.readForCapture at hread
      obtain ⟨found, hfound, hread⟩ := bind_eq_ok hread
      obtain ⟨next, hnext, hread⟩ := bind_eq_ok hread
      obtain ⟨_, _, hread⟩ := bind_eq_ok hread
      obtain ⟨_, _, hread⟩ := bind_eq_ok hread
      obtain ⟨_, _, hread⟩ := bind_eq_ok hread
      cases hread
      obtain ⟨slot, hslot, hpending, horder⟩ := pending_of_nextSigner hnext
      refine ⟨target, slot, SignatureEnvelope.signedRow input now
        ⟨provider.driver, rubricKey, runtime.sha256 input.rubricPng⟩ target.currentPdfSha256
        (runtime.sha256 (runtime.stampSignature current
          (SignatureEnvelope.signatureMark target signer input now) now)),
        find?_of_envelope hfound, hslot, hpending, fun _ => rfl,
        fun _ => by simp [SignatureEnvelope.signedRow], _, hcommitted.symm, fun _ => ⟨rfl, ?_⟩⟩
      rw [horder]
      rfl

theorem reject_settles {provider : SignatureEnvelope.System} {reference : String}
    {input : SignatureEnvelope.SignatureRejection} {now : Instant} {envelopes : List Envelope}
    (h : (SignatureEnvelope.reject provider reference input now).outcome = .ok envelopes) :
    ∃ target slot settle, Settles provider.envelopes envelopes reference target slot settle := by
  unfold SignatureEnvelope.reject at h
  cases hfound : SignatureEnvelope.envelope provider.envelopes reference with
  | error error =>
    rw [hfound] at h
    cases h
  | ok target =>
    rw [hfound] at h
    dsimp only at h
    cases hnext : SignatureEnvelope.nextSigner target input.order input.signerPersonId with
    | error error =>
      rw [hnext] at h
      cases h
    | ok signer =>
      rw [hnext] at h
      have hcommitted := Except.ok.inj h
      obtain ⟨slot, hslot, hpending, horder⟩ := pending_of_nextSigner hnext
      refine ⟨target, slot, SignatureEnvelope.rejectedRow input now target.currentPdfSha256,
        find?_of_envelope hfound, hslot, hpending, fun _ => rfl,
        fun _ => by simp [SignatureEnvelope.rejectedRow], _, hcommitted.symm, fun _ => ⟨rfl, ?_⟩⟩
      rw [horder]
      rfl

theorem act_settles {runtime : Runtime} {provider after : SignatureEnvelope.System}
    {reference : String} {call : Call} (hact : IsAct reference call)
    (hcommit : SignatureEnvelope.next runtime provider (.committed call) = some after) :
    ∃ target slot settle,
      Settles provider.envelopes after.envelopes reference target slot settle := by
  simp only [SignatureEnvelope.next] at hcommit
  split at hcommit
  · cases hcommit
  next envelopes houtcome =>
  obtain rfl := Option.some.inj hcommit
  cases call with
  | capture externalReference input now =>
    obtain rfl := hact
    exact capture_settles houtcome
  | reject externalReference input now =>
    obtain rfl := hact
    exact reject_settles houtcome
  | _ => exact hact.elim

/-- What the provider says after a signature or a refusal is ahead of what it said. -/
theorem Settles.ahead {envelopes after : List Envelope} {reference : String} {target : Envelope}
    {slot : SignerRow} {settle : SignerRow → SignerRow}
    (h : Settles envelopes after reference target slot settle)
    (hnodup : (orders (envelopeStatuses envelopes reference)).Nodup) :
    Ahead (envelopeStatuses envelopes reference) (envelopeStatuses after reference) := by
  obtain ⟨change, rfl, hchange⟩ := h.after
  have hid : target.id = reference := by simpa using List.find?_some h.found
  have hbefore : envelopeStatuses envelopes reference = statusesOf target := by
    simp [envelopeStatuses, h.found]
  have hafter : envelopeStatuses
      (SignatureEnvelope.updateEnvelope envelopes target.id change) reference =
      statusesOf (change target) := by
    have hsame : (fun envelope : Envelope => decide (envelope.id = reference)) ∘
        (fun envelope => if envelope.id = target.id then change envelope else envelope) =
        fun envelope => decide (envelope.id = reference) := by
      funext envelope
      by_cases hother : envelope.id = target.id
      · simp [hother, (hchange envelope).1]
      · simp [hother]
    unfold envelopeStatuses SignatureEnvelope.updateEnvelope
    rw [List.find?_map, hsame, h.found]
    simp
  rw [hbefore] at hnodup
  rw [hbefore, hafter]
  have hsigners : (change target).signers =
      SignatureEnvelope.updateSigner target.signers slot.signOrder settle := (hchange target).2
  constructor
  · unfold orders statusesOf
    rw [hsigners]
    unfold SignatureEnvelope.updateSigner
    simp only [List.map_map]
    refine List.map_congr_left fun signer _ => ?_
    by_cases hslot : signer.signOrder = slot.signOrder
    · simp [hslot, h.order]
    · simp [hslot]
  · intro status hstatus hsettled
    obtain ⟨signer, hsigner, rfl⟩ := List.mem_map.mp hstatus
    have hother : signer.signOrder ≠ slot.signOrder := by
      intro hsame
      unfold orders statusesOf at hnodup
      rw [List.map_map] at hnodup
      have heq : signer = slot := List.inj_on_of_nodup_map hnodup hsigner h.member hsame
      exact hsettled (heq ▸ h.pending)
    unfold statusesOf
    rw [hsigners]
    refine List.mem_map.mpr ⟨signer, List.mem_map.mpr ⟨signer, hsigner, if_neg hother⟩, rfl⟩
  · refine ⟨⟨(settle slot).signOrder, (settle slot).status, (settle slot).signedAt⟩, ?_,
      h.settled slot, ⟨slot.signOrder, slot.status, slot.signedAt⟩,
      List.mem_map_of_mem h.member, (h.order slot).symm, h.pending⟩
    unfold statusesOf
    rw [hsigners]
    exact List.mem_map.mpr ⟨settle slot, List.mem_map.mpr ⟨slot, h.member, if_pos rfl⟩, rfl⟩

/-! ### The transaction that writes -/

theorem slotStatuses_save {engine : Engine} {id : RowId} {locked : Document}
    (hfound : findDocument engine id = some locked) (changed : Document) (hid : changed.id = locked.id)
    (system : System) :
    slotStatuses { engine with
      system := system, documents := saveDocument changed engine.documents } id =
      changed.signatures.map slotStatus := by
  have hlocked := (findDocument_eq_some hfound).2
  have hkey : id = changed.id := hlocked.symm.trans hid.symm
  have hwritten : findDocument { engine with
      system := system, documents := saveDocument changed engine.documents } id =
      if id = changed.id then some changed else findDocument engine id :=
    find?_replaced Document.id changed (hkey ▸ hfound) id
  rw [if_pos hkey] at hwritten
  simp [slotStatuses, hwritten]

/-- A sync leaves the envelopes alone. -/
theorem syncTransaction_envelopes (input : CallbackInput) (cut : Option (System × Failure))
    (engine : Engine) (id : RowId) (statuses : List SignerStatus) :
    (syncTransaction input cut engine id statuses).1.envelopes = engine.envelopes := by
  cases hfound : findDocument engine id with
  | none => rw [syncTransaction_missing hfound]
  | some locked =>
    have hsynced := syncTransaction_synced hfound input cut statuses
    generalize syncTransaction input cut engine id statuses = outcome at hsynced ⊢
    obtain ⟨result, outcome⟩ := outcome
    cases hsynced with
    | stayed => rfl
    | moved => rfl
    | failed => rfl

/-- After the transaction of a sync the slots show what it was given, however its
callback ends. -/
theorem slotStatuses_syncTransaction {engine : Engine} {id : RowId} {statuses : List SignerStatus}
    (hnodup : (orders statuses).Nodup)
    (horders : orders (slotStatuses engine id) = orders statuses) (input : CallbackInput)
    (cut : Option (System × Failure)) :
    slotStatuses (syncTransaction input cut engine id statuses).1 id = statuses := by
  cases hfound : findDocument engine id with
  | none =>
    rw [syncTransaction_missing hfound]
    have hnone : slotStatuses engine id = [] := by simp [slotStatuses, hfound]
    rw [hnone] at horders ⊢
    exact (List.map_eq_nil_iff.mp horders.symm).symm
  | some locked =>
    have hslots : slotStatuses engine id = locked.signatures.map slotStatus := by
      simp [slotStatuses, hfound]
    rw [hslots] at horders
    have hwritten := map_slotStatus_writeSlots hnodup horders
    have hsynced := syncTransaction_synced hfound input cut statuses
    generalize syncTransaction input cut engine id statuses = outcome at hsynced ⊢
    obtain ⟨result, outcome⟩ := outcome
    cases hsynced with
    | stayed =>
      have hsaved := slotStatuses_save hfound (slottedDocument statuses locked) rfl engine.system
      exact hsaved.trans hwritten
    | moved target after =>
      have hsaved := slotStatuses_save hfound
        (movedDocument target (slottedDocument statuses locked)) rfl after
      exact hsaved.trans hwritten
    | failed target failure =>
      have hsaved := slotStatuses_save hfound
        (failedDocument failure (slottedDocument statuses locked)) rfl engine.system
      exact hsaved.trans hwritten

/-! ### Syncs that overlap -/

/-- A document and its envelope while syncs go on: the signatures and refusals
so far, how many of them the slots show, the syncs in progress, and those that a
signature or a refusal still waits for. -/
structure SlotState where
  engine : Engine
  acts : ℕ
  shown : ℕ
  calls : ℕ → Option (Stage (List SignerStatus))
  owed : List ℕ

/-- The slots as a copy of those of the envelope. -/
def SlotState.picture (reference : String) (id : RowId) (state : SlotState) :
    State (List SignerStatus) where
  source := ⟨state.acts, envelopeStatuses state.engine.envelopes reference⟩
  copy := ⟨state.shown, slotStatuses state.engine id⟩
  calls := state.calls
  owed := state.owed

/-- A step of a signer, of a sync or of others, where the writes are `allowed`.
The sync of a signature or of a refusal begins with it. -/
inductive SlotStep (runtime : Runtime) (reference : String) (id : RowId)
    (allowed : State (List SignerStatus) → Reading (List SignerStatus) → Prop)
    (state : SlotState) : SlotState → Prop
  | acted (provider after : SignatureEnvelope.System) (act : Call) (call : ℕ)
      (hprovider : provider.envelopes = state.engine.envelopes) (hact : IsAct reference act)
      (hcommit : SignatureEnvelope.next runtime provider (.committed act) = some after)
      (hfresh : (state.picture reference id).Fresh call) :
      SlotStep runtime reference id allowed state
        { engine := { state.engine with envelopes := after.envelopes }
          acts := state.acts + 1
          shown := state.shown
          calls := setCall state.calls call (some .starting)
          owed := call :: state.owed }
  | began (call : ℕ) (hfresh : (state.picture reference id).Fresh call) :
      SlotStep runtime reference id allowed state
        { state with calls := setCall state.calls call (some .starting) }
  | read (call : ℕ) (hcall : state.calls call = some .starting) :
      SlotStep runtime reference id allowed state
        { state with calls := setCall state.calls call (some (.read
            ⟨state.acts, envelopeStatuses state.engine.envelopes reference⟩)) }
  | wrote (call : ℕ) (reading : Reading (List SignerStatus)) (input : CallbackInput)
      (cut : Option (System × Failure)) (hcall : state.calls call = some (.read reading))
      (hallowed : allowed (state.picture reference id) reading) :
      SlotStep runtime reference id allowed state
        { engine := (syncTransaction input cut state.engine id reading.picture).1
          acts := state.acts
          shown := reading.version
          calls := setCall state.calls call (some .written)
          owed := state.owed.filter fun other => other ≠ call }
  | refreshed (call : ℕ) (hcall : state.calls call = some .written) :
      SlotStep runtime reference id allowed state
        { state with calls := setCall state.calls call none }
  | stopped (call : ℕ) :
      SlotStep runtime reference id allowed state
        { state with calls := setCall state.calls call none }
  | elsewhere (engine : Engine) (hslots : slotStatuses engine id = slotStatuses state.engine id)
      (henvelope : envelopeStatuses engine.envelopes reference =
        envelopeStatuses state.engine.envelopes reference) :
      SlotStep runtime reference id allowed state { state with engine := engine }

/-- The slots show the envelope, each signer has its own order, and no sync goes on. -/
structure InStep (reference : String) (id : RowId) (state : SlotState) : Prop where
  shown : (state.picture reference id).copy = (state.picture reference id).source
  nodup : (orders (envelopeStatuses state.engine.envelopes reference)).Nodup
  calls : ∀ call, state.calls call = none

/-- The slots are a copy of those of the envelope, and each signer has its own order. -/
structure SlotInvariant (reference : String) (id : RowId) (state : SlotState) : Prop where
  copy : Invariant Ahead (state.picture reference id)
  nodup : (orders (envelopeStatuses state.engine.envelopes reference)).Nodup

section Overlaps

variable {runtime : Runtime} {reference : String} {id : RowId} {start state after later : SlotState}

/-- All that was read has the orders of the envelope. -/
theorem orders_of_known {copies : State (List SignerStatus)} (h : Invariant Ahead copies)
    {reading : Reading (List SignerStatus)} (hreading : Known copies reading) :
    orders reading.picture = orders copies.source.picture := by
  rcases Nat.lt_or_eq_of_le (h.current reading hreading) with hlt | heq
  · exact (h.ordered reading copies.source hreading (Or.inl rfl) hlt).orders.symm
  · rw [h.same reading copies.source hreading (Or.inl rfl) heq]

theorem InStep.invariant (h : InStep reference id state) : SlotInvariant reference id state :=
  ⟨Invariant.start h.shown h.calls, h.nodup⟩

/-- What a sync has read is what the slots show once it has written. -/
theorem SlotInvariant.written (h : SlotInvariant reference id state) {call : ℕ}
    {reading : Reading (List SignerStatus)} (hcall : state.calls call = some (.read reading))
    (input : CallbackInput) (cut : Option (System × Failure)) :
    slotStatuses (syncTransaction input cut state.engine id reading.picture).1 id =
      reading.picture := by
  have hreading : orders reading.picture =
      orders (envelopeStatuses state.engine.envelopes reference) :=
    orders_of_known h.copy (Or.inr (Or.inr ⟨call, hcall⟩))
  have hcopy : orders (slotStatuses state.engine id) =
      orders (envelopeStatuses state.engine.envelopes reference) :=
    orders_of_known h.copy (Or.inr (Or.inl rfl))
  exact slotStatuses_syncTransaction (hreading ▸ h.nodup) (hcopy.trans hreading.symm) input cut

/-- A step of the slots is a step of a copy, or leaves the copy alone. -/
theorem SlotStep.simulates (h : SlotInvariant reference id state)
    (hstep : SlotStep runtime reference id Timely state after) :
    (RefreshedCopy.Step Ahead Timely (state.picture reference id) (after.picture reference id) ∨
      after.picture reference id = state.picture reference id) ∧
    orders (envelopeStatuses after.engine.envelopes reference) =
      orders (envelopeStatuses state.engine.envelopes reference) := by
  cases hstep with
  | acted provider next act call hprovider hact hcommit hfresh =>
    obtain ⟨target, slot, settle, hsettles⟩ := act_settles hact hcommit
    rw [hprovider] at hsettles
    have hahead := hsettles.ahead h.nodup
    exact ⟨Or.inl (.advanced _ call hahead hfresh), hahead.orders⟩
  | began call hfresh => exact ⟨Or.inl (.began call hfresh), rfl⟩
  | read call hcall => exact ⟨Or.inl (.read call hcall), rfl⟩
  | wrote call reading input cut hcall hallowed =>
    have hsame := syncTransaction_envelopes input cut state.engine id reading.picture
    refine ⟨Or.inl ?_, by rw [hsame]⟩
    unfold SlotState.picture
    dsimp only
    rw [h.written hcall input cut, hsame]
    exact .wrote call reading hcall hallowed
  | refreshed call hcall => exact ⟨Or.inl (.finished call hcall), rfl⟩
  | stopped call => exact ⟨Or.inl (.stopped call), rfl⟩
  | elsewhere engine hslots henvelope =>
    refine ⟨Or.inr ?_, congrArg orders henvelope⟩
    unfold SlotState.picture
    rw [hslots, henvelope]

theorem SlotInvariant.step (h : SlotInvariant reference id state)
    (hstep : SlotStep runtime reference id Timely state after) :
    SlotInvariant reference id after ∧
      Reaches Ahead (slotStatuses state.engine id) (slotStatuses after.engine id) := by
  obtain ⟨hsteps, horders⟩ := hstep.simulates h
  have hnodup : (orders (envelopeStatuses after.engine.envelopes reference)).Nodup :=
    horders ▸ h.nodup
  rcases hsteps with hcopies | hsame
  · exact ⟨⟨h.copy.step hcopies, hnodup⟩, hcopies.reaches h.copy⟩
  · have hslots : slotStatuses after.engine id = slotStatuses state.engine id :=
      congrArg (fun copies => copies.copy.picture) hsame
    exact ⟨⟨hsame ▸ h.copy, hnodup⟩, Or.inl hslots.symm⟩

theorem SlotInvariant.run (h : SlotInvariant reference id state)
    (hrun : Relation.ReflTransGen (SlotStep runtime reference id Timely) state later) :
    SlotInvariant reference id later ∧
      Reaches Ahead (slotStatuses state.engine id) (slotStatuses later.engine id) := by
  induction hrun with
  | refl => exact ⟨h, Or.inl rfl⟩
  | tail _ hstep ih =>
    obtain ⟨hafter, hreaches⟩ := ih.1.step hstep
    exact ⟨hafter, RefreshedCopy.Reaches.trans ih.2 hreaches⟩

/-- In every run whose syncs write nothing that they read before what the slots
show, a slot that is signed or refused stays as it is, and once the sync of each
signature and refusal has written, every slot shows its signer. A sync that
writes what it read before takes a settled slot back. -/
theorem slots_never_back (hstart : InStep reference id start)
    (hrun : Relation.ReflTransGen (SlotStep runtime reference id Timely) start state)
    (hlater : Relation.ReflTransGen (SlotStep runtime reference id Timely) state later) :
    (∀ status ∈ slotStatuses state.engine id, status.status ≠ .pending →
      status ∈ slotStatuses later.engine id) ∧
    orders (slotStatuses later.engine id) = orders (slotStatuses state.engine id) ∧
    (orders (slotStatuses later.engine id)).Nodup ∧
    (later.owed = [] → slotStatuses later.engine id =
      envelopeStatuses later.engine.envelopes reference) ∧
    ∀ call reading input cut, later.calls call = some (.read reading) →
      ¬Timely (later.picture reference id) reading →
        Ahead (slotStatuses (syncTransaction input cut later.engine id reading.picture).1 id)
          (slotStatuses later.engine id) := by
  have hstate := (hstart.invariant.run hrun).1
  obtain ⟨hinvariant, hreaches⟩ := hstate.run hlater
  have horders : orders (slotStatuses later.engine id) =
      orders (envelopeStatuses later.engine.envelopes reference) :=
    orders_of_known hinvariant.copy (Or.inr (Or.inl rfl))
  refine ⟨fun status hstatus hsettled => kept_of_reaches hreaches hstatus hsettled,
    orders_of_reaches hreaches,
    horders ▸ hinvariant.nodup, fun howed => hinvariant.copy.copy_eq howed, ?_⟩
  intro call reading input cut hcall huntimely
  rw [hinvariant.written hcall input cut]
  exact hinvariant.copy.ahead_of_not_timely hcall huntimely

end Overlaps

/-! ### Two signers -/

/-- The request of a document with two signers. -/
def twoSignersRequest : SignatureEnvelope.SignatureRequest :=
  { SignatureEnvelope.sampleRequest with
    signers := [⟨1, "ENTREGA", none, some "persona-1", some "Ana", none⟩,
      ⟨2, "RECIBE", none, some "persona-2", some "Luis", none⟩] }

def requestingCall : Call :=
  .request twoSignersRequest "AAAAAAAAAAAAAAAAAAAAAAAAAAAAAAAA" "sobre-1"
    (SignatureEnvelope.sampleNoon 0)

/-- The first signs. -/
def firstCall : Call :=
  .capture "sobre-1" SignatureEnvelope.sampleCapture (SignatureEnvelope.sampleNoon 1)

/-- The second refuses. -/
def secondCall : Call :=
  .reject "sobre-1"
    ⟨2, "persona-2", none, none, .session true "usuario-2" "sesion-2", "No corresponde"⟩
    (SignatureEnvelope.sampleNoon 2)

def requestedProvider : SignatureEnvelope.System :=
  providerAfter SignatureEnvelope.sampleSystem requestingCall

def firstProvider : SignatureEnvelope.System := providerAfter requestedProvider firstCall

def secondProvider : SignatureEnvelope.System := providerAfter firstProvider secondCall

/-- A document of no process with its envelope. -/
def twoSigners : Engine where
  system := Loans.twoAssets
  documents := [requestedDocument "sobre-1" (newDocument
    ⟨scannerAct, "ACTA-1", "TRASLADO", none, none, [(1, "ENTREGA", none), (2, "RECIBE", none)]⟩)]
  envelopes := requestedProvider.envelopes

/-- No sync goes on. -/
def twoSignersStart : SlotState := ⟨twoSigners, 0, 0, fun _ => none, []⟩

/-- The first has signed, and its sync begins. -/
def firstActed : SlotState :=
  ⟨{ twoSigners with envelopes := firstProvider.envelopes }, 1, 0,
    setCall twoSignersStart.calls 0 (some .starting), [0]⟩

/-- What the sync of the first reads. -/
def firstReading : Reading (List SignerStatus) :=
  ⟨firstActed.acts, envelopeStatuses firstActed.engine.envelopes "sobre-1"⟩

def firstRead : SlotState :=
  { firstActed with calls := setCall firstActed.calls 0 (some (.read firstReading)) }

/-- Its sync has written before anyone else acts. -/
def firstWrote : SlotState :=
  ⟨(syncTransaction plainInput none firstRead.engine scannerAct firstReading.picture).1, 1, 1,
    setCall firstRead.calls 0 (some .written), []⟩

/-- The second has refused while the sync of the first has read and not written. -/
def secondActed : SlotState :=
  ⟨{ twoSigners with envelopes := secondProvider.envelopes }, 2, 0,
    setCall firstRead.calls 1 (some .starting), [1, 0]⟩

/-- What the sync of the second reads. -/
def secondReading : Reading (List SignerStatus) :=
  ⟨secondActed.acts, envelopeStatuses secondActed.engine.envelopes "sobre-1"⟩

def secondRead : SlotState :=
  { secondActed with calls := setCall secondActed.calls 1 (some (.read secondReading)) }

/-- The sync of the second has written. -/
def secondWrote : SlotState :=
  ⟨(syncTransaction plainInput none secondRead.engine scannerAct secondReading.picture).1, 2, 2,
    setCall secondRead.calls 1 (some .written), [0]⟩

/-- The sync of the first has written after it. -/
def firstWroteLate : SlotState :=
  ⟨(syncTransaction plainInput none secondWrote.engine scannerAct firstReading.picture).1, 2, 1,
    setCall secondWrote.calls 0 (some .written), []⟩

def firstEnded : SlotState :=
  { firstWroteLate with calls := setCall firstWroteLate.calls 0 none }

/-- Both syncs have ended. -/
def bothEnded : SlotState := { firstEnded with calls := setCall firstEnded.calls 1 none }

theorem inStep_twoSignersStart : InStep "sobre-1" scannerAct twoSignersStart where
  shown := by
    have hsame : slotStatuses twoSigners scannerAct =
        envelopeStatuses twoSigners.envelopes "sobre-1" := by decide +kernel
    exact congrArg (Reading.mk 0) hsame
  nodup := by decide +kernel
  calls := fun _ => rfl

section TwoSigners

variable {allowed : State (List SignerStatus) → Reading (List SignerStatus) → Prop}

/-- The first signs, and its sync reads. -/
theorem firstRead_run : Relation.ReflTransGen
    (SlotStep SignatureEnvelope.sampleRuntime "sobre-1" scannerAct allowed)
    twoSignersStart firstRead := by
  have hfirst := providerAfter_spec (by decide +kernel : (SignatureEnvelope.next
    SignatureEnvelope.sampleRuntime requestedProvider (.committed firstCall)).isSome = true)
  have hsame : requestedProvider.envelopes = twoSignersStart.engine.envelopes := by
    dsimp only [twoSignersStart, twoSigners]
  have hacted : SlotStep SignatureEnvelope.sampleRuntime "sobre-1" scannerAct allowed
      twoSignersStart firstActed :=
    .acted requestedProvider firstProvider firstCall 0 hsame rfl hfirst ⟨rfl, List.not_mem_nil⟩
  have hread : SlotStep SignatureEnvelope.sampleRuntime "sobre-1" scannerAct allowed
      firstActed firstRead := .read 0 rfl
  exact .tail (.single hacted) hread

end TwoSigners

/-- With one sync at a time the slots show the first signature. -/
theorem slots_never_back_first : slotStatuses firstWrote.engine scannerAct =
    envelopeStatuses firstWrote.engine.envelopes "sobre-1" := by
  have hwrote : SlotStep SignatureEnvelope.sampleRuntime "sobre-1" scannerAct Timely
      firstRead firstWrote :=
    .wrote 0 firstReading plainInput none rfl (Nat.zero_le 1)
  have hrun := firstRead_run.tail hwrote
  exact (slots_never_back inStep_twoSignersStart hrun .refl).2.2.2.1 rfl

/-- The sync of the first signature reads, the second signer refuses and that sync
writes, and then the first writes what it read: the refused slot is pending again,
and stays so when both syncs have ended. -/
theorem slot_goes_back :
    InStep "sobre-1" scannerAct twoSignersStart ∧
    Relation.ReflTransGen (SlotStep SignatureEnvelope.sampleRuntime "sobre-1" scannerAct
      fun _ _ => True) twoSignersStart secondWrote ∧
    Relation.ReflTransGen (SlotStep SignatureEnvelope.sampleRuntime "sobre-1" scannerAct
      fun _ _ => True) secondWrote bothEnded ∧
    (∃ status ∈ slotStatuses secondWrote.engine scannerAct, status.status = .rejected ∧
      ∃ back ∈ slotStatuses bothEnded.engine scannerAct,
        back.order = status.order ∧ back.status = .pending) ∧
    (∀ call, bothEnded.calls call = none) ∧ bothEnded.owed = [] ∧
    slotStatuses bothEnded.engine scannerAct ≠
      envelopeStatuses bothEnded.engine.envelopes "sobre-1" := by
  have hsecond := providerAfter_spec (by decide +kernel : (SignatureEnvelope.next
    SignatureEnvelope.sampleRuntime firstProvider (.committed secondCall)).isSome = true)
  have hsame : firstProvider.envelopes = firstRead.engine.envelopes := by
    dsimp only [firstRead, firstActed]
  have hacted : SlotStep SignatureEnvelope.sampleRuntime "sobre-1" scannerAct (fun _ _ => True)
      firstRead secondActed :=
    .acted firstProvider secondProvider secondCall 1 hsame rfl hsecond ⟨rfl, by decide⟩
  have hread : SlotStep SignatureEnvelope.sampleRuntime "sobre-1" scannerAct (fun _ _ => True)
      secondActed secondRead := .read 1 rfl
  have hwrote : SlotStep SignatureEnvelope.sampleRuntime "sobre-1" scannerAct (fun _ _ => True)
      secondRead secondWrote := .wrote 1 secondReading plainInput none rfl trivial
  have hlate : SlotStep SignatureEnvelope.sampleRuntime "sobre-1" scannerAct (fun _ _ => True)
      secondWrote firstWroteLate := .wrote 0 firstReading plainInput none rfl trivial
  have hended : SlotStep SignatureEnvelope.sampleRuntime "sobre-1" scannerAct (fun _ _ => True)
      firstWroteLate firstEnded := .refreshed 0 rfl
  have hboth : SlotStep SignatureEnvelope.sampleRuntime "sobre-1" scannerAct (fun _ _ => True)
      firstEnded bothEnded := .refreshed 1 rfl
  refine ⟨inStep_twoSignersStart, ((firstRead_run.tail hacted).tail hread).tail hwrote,
    ((Relation.ReflTransGen.single hlate).tail hended).tail hboth, by decide +kernel, ?_, rfl,
    by decide +kernel⟩
  intro call
  by_cases hone : call = 1
  · subst hone
    rfl
  · by_cases hzero : call = 0
    · subst hzero
      rfl
    · simp [bothEnded, firstEnded, firstWroteLate, secondWrote, secondRead, secondActed, firstRead, firstActed,
        twoSignersStart, setCall_of_ne hone, setCall_of_ne hzero]

end InternalControl.DocumentEngine
