import InternalControl.LifecycleRuns

/-!
# Acts that are voided

Cancelling a process voids its acts that wait for signatures, also one whose
envelope has all of them: such an act is not in force until its process has
taken it. An act that is signed is never voided, and its process is never
cancelled after it.
-/

namespace InternalControl.DocumentEngine

open Assets AssetProcesses Documents Fallible
open SignatureEnvelope (Runtime)

section Steps

variable {runtime : Runtime} {engine after later : Engine} {history told since : List Told}

/-- No callback cancels a process. -/
theorem dispatch_isCancelled {input : CallbackInput} {phase : DocumentLifecyclePhase}
    {system result : System} {document : Document}
    (h : dispatch input phase system document = .ok result) (process : Process) (id : RowId) :
    isCancelled result process id = isCancelled system process id := by
  rcases dispatch_heard h with ⟨own, ownId, _, hheard⟩ | ⟨hkept, _⟩
  · cases hheard with
    | kept _ hkept => exact hkept.isCancelled process id
    | completed state hbefore _ hcancelled _ hleaves =>
      have hafter := hleaves process id
      unfold isCancelled
      rw [hafter]
      split
      · next hsame =>
        rw [hsame.1, hsame.2, hbefore]
        simp [hcancelled]
      · rfl
  · exact hkept.isCancelled process id

/-- A process with a signed act is not cancelled. -/
theorem cancelProcess_ne_ok {document : Document} {process : Process} {id : RowId}
    (hdocument : document ∈ engine.documents) (hsigned : document.status = .signed)
    (hof : Document.isOf document process.entityType id = true) :
    cancelProcess engine process id ≠ .ok after := by
  intro hcommit
  obtain ⟨voided, hvoid, _, _⟩ := cancelProcess_eq_ok hcommit
  exact (voidForEntity_eq_ok hvoid).1 document hdocument hof hsigned

/-- The act is still there, signed, and its process is cancelled only if it was. -/
structure StaysSigned (engine after : Engine) (document : Document) : Prop where
  kept : ∃ kept ∈ after.documents, SameAct document kept
  process : ∀ process id, Document.isOf document (Process.entityType process) id = true →
    isCancelled after.system process id = true → isCancelled engine.system process id = true

theorem StaysSigned.refl {document : Document} (hdocument : document ∈ engine.documents) :
    StaysSigned engine engine document :=
  ⟨⟨document, hdocument, SameAct.refl document⟩, fun _ _ _ h => h⟩

theorem Kept.staysSigned {document : Document} (h : Kept engine after)
    (hdocument : document ∈ engine.documents)
    (hprocess : ∀ process id, Document.isOf document (Process.entityType process) id = true →
      isCancelled after.system process id = true → isCancelled engine.system process id = true) :
    StaysSigned engine after document := by
  obtain ⟨change, hdocuments, hsame⟩ := h.documents
  refine ⟨⟨change document, ?_, hsame document hdocument⟩, hprocess⟩
  rw [hdocuments]
  exact List.mem_map_of_mem hdocument

/-- No transaction voids a signed act or cancels its process. -/
theorem Step.staysSigned (hstep : Step runtime engine told after)
    (hids : (engine.documents.map Document.id).Nodup) {document : Document}
    (hdocument : document ∈ engine.documents) (hsigned : document.status = .signed) :
    StaysSigned engine after document := by
  cases hstep with
  | generated input new after hcommit =>
    unfold generateWithin at hcommit
    split_ifs at hcommit
    obtain ⟨system, htold, hcommit⟩ := bind_eq_ok hcommit
    obtain rfl := Except.ok.inj hcommit
    refine ⟨⟨document, List.mem_append_left _ hdocument, SameAct.refl document⟩, ?_⟩
    intro process id _ hcancelled
    rwa [dispatch_isCancelled htold process id] at hcancelled
  | requested id reference =>
    have hsame : ∀ document, SameAct document (requestedDocument reference document) :=
      fun _ => ⟨rfl, rfl, rfl, Iff.rfl⟩
    exact (Kept.of_update id hsame).staysSigned hdocument fun _ _ _ h => h
  | reassigned id order person =>
    have hsame : ∀ document, SameAct document (reassignedDocument order person document) :=
      fun _ => ⟨rfl, rfl, rfl, Iff.rfl⟩
    exact (Kept.of_update id hsame).staysSigned hdocument fun _ _ _ h => h
  | provided provider after call hprovider hcall hcommit =>
    exact ⟨⟨document, hdocument, SameAct.refl document⟩, fun _ _ _ h => h⟩
  | cancelled process id after hcommit =>
    refine (Kept.of_cancelProcess hcommit).staysSigned hdocument ?_
    intro other otherId hof hcancelled
    obtain ⟨voided, hvoid, ⟨_, hleaves⟩, _⟩ := cancelProcess_eq_ok hcommit
    have hother : ¬(other = process ∧ otherId = id) := by
      rintro ⟨rfl, rfl⟩
      exact cancelProcess_ne_ok hdocument hsigned hof hcommit
    have hafter := hleaves other otherId
    rw [if_neg hother] at hafter
    unfold isCancelled at hcancelled ⊢
    rwa [hafter] at hcancelled
  | elsewhere system helsewhere =>
    refine ⟨⟨document, hdocument, SameAct.refl document⟩, ?_⟩
    intro process id hof hcancelled
    rcases helsewhere.cancelled process id hcancelled with hbefore | hnone
    · exact hbefore
    · rw [hnone document hdocument] at hof
      cases hof
  | synced input cut id statuses =>
    cases hfound : findDocument engine id with
    | none =>
      rw [syncTransaction_missing hfound]
      exact StaysSigned.refl hdocument
    | some locked =>
      obtain ⟨hlocked, hid⟩ := findDocument_eq_some hfound
      have hsynced := syncTransaction_synced hfound input cut statuses
      generalize syncTransaction input cut engine id statuses = outcome at hsynced ⊢
      obtain ⟨result, outcome⟩ := outcome
      cases hsynced with
      | stayed =>
        have hsame : SameAct locked (slottedDocument statuses locked) := ⟨rfl, rfl, rfl, Iff.rfl⟩
        exact (Kept.of_save hids hlocked hsame fun _ _ => rfl).staysSigned hdocument
          fun _ _ _ h => h
      | failed target failure hpending =>
        have hsame : SameAct locked (failedDocument failure (slottedDocument statuses locked)) :=
          ⟨rfl, rfl, rfl, Iff.rfl⟩
        exact (Kept.of_save hids hlocked hsame fun _ _ => rfl).staysSigned hdocument
          fun _ _ _ h => h
      | moved target system hpending htarget hcut hdispatch =>
        -- the document that moves was pending, so it is another one
        have hother : document.id ≠ locked.id := by
          intro hsame
          obtain rfl := eq_of_id hids hlocked hdocument hsame
          rw [hpending] at hsigned
          cases hsigned
        refine ⟨⟨document, List.mem_map.mpr ⟨document, hdocument, if_neg hother⟩,
          SameAct.refl document⟩, ?_⟩
        intro process id _ hcancelled
        rwa [dispatch_isCancelled hdispatch process id] at hcancelled

theorem StaysSigned.trans {document kept : Document} (h : StaysSigned engine after document)
    (hsame : SameAct document kept) (hlater : StaysSigned after later kept) :
    StaysSigned engine later document := by
  obtain ⟨last, hlast, hlastSame⟩ := hlater.kept
  refine ⟨⟨last, hlast, hlastSame.id.trans hsame.id, hlastSame.entityType.trans hsame.entityType,
    hlastSame.entityId.trans hsame.entityId, hlastSame.signed.trans hsame.signed⟩, ?_⟩
  intro process id hof hcancelled
  exact h.process process id hof (hlater.process process id (hsame.isOf _ _ ▸ hof) hcancelled)

/-- A run goes on from where all agree. -/
theorem Agrees.run (h : Agrees history engine) (hrun : Run runtime engine since later) :
    Agrees (history ++ since) later := by
  induction hrun with
  | refl => exact (List.append_nil history).symm ▸ h
  | step _ hstep ih => exact List.append_assoc history _ _ ▸ hstep.agrees ih

/-- A process that an act completed is not cancelled. -/
theorem not_cancelled_of_completedBy {system : System} {process : Process} {id documentId : RowId}
    (h : completedBy system process id = some documentId) :
    isCancelled system process id = false := by
  unfold completedBy at h
  obtain ⟨state, hstate, hcompleted⟩ := Option.bind_eq_some_iff.mp h
  unfold isCancelled
  rw [hstate]
  cases process with
  | handover =>
    obtain ⟨row, _, rfl⟩ := Option.map_eq_some_iff.mp hstate
    by_cases hstatus : row.status = .signed <;> simp_all [handoverState]
  | transfer =>
    obtain ⟨row, _, rfl⟩ := Option.map_eq_some_iff.mp hstate
    by_cases hstatus : row.status = .completed <;> simp_all [transferState]
  | writeOff =>
    obtain ⟨row, _, rfl⟩ := Option.map_eq_some_iff.mp hstate
    by_cases hstatus : row.status = .completed <;> simp_all [writeOffState]
  | loan =>
    obtain ⟨row, _, rfl⟩ := Option.map_eq_some_iff.mp hstate
    cases hcompleted

theorem Run.staysSigned (h : Agrees history engine) (hrun : Run runtime engine since later)
    {document : Document} (hdocument : document ∈ engine.documents)
    (hsigned : document.status = .signed) : StaysSigned engine later document := by
  induction hrun with
  | refl => exact StaysSigned.refl hdocument
  | step hrun hstep ih =>
    obtain ⟨kept, hkept, hsame⟩ := ih.kept
    have hnext := hstep.staysSigned (h.run hrun).ids hkept (hsame.signed.mpr hsigned)
    exact ih.trans hsame hnext

end Steps

/-! ### A handover that is cancelled before its act is taken -/

/-- The act of the scanner, signed by the sync. -/
def signedAct : Engine :=
  (syncTransaction plainInput none generatedAct scannerAct [⟨1, .signed, none⟩]).1

theorem generatedAct_run : Run SignatureEnvelope.sampleRuntime waitingHandover
    ([] ++ [(scannerAct, .onGenerated)]) generatedAct :=
  .step .refl (.generated plainInput scannerActInput _
    (eq_ok_attempt generateScannerAct (by decide +kernel)))

/-- What the provider is asked for the act of the scanner. -/
def scannerRequest : SignatureEnvelope.SignatureRequest :=
  { SignatureEnvelope.sampleRequest with
    documentNumber := "OCI-01-55-1"
    formatKey := Handovers.formatKey
    signers := [⟨1, "RECIBE", none, some "p1", some "Ana", none⟩] }

/-- The call that asks for the signature. -/
def askingCall : SignatureEnvelope.Call :=
  .request scannerRequest "AAAAAAAAAAAAAAAAAAAAAAAAAAAAAAAA" "sobre-1"
    (SignatureEnvelope.sampleNoon 0)

/-- The call that signs. -/
def signingCall : SignatureEnvelope.Call :=
  .capture "sobre-1" { SignatureEnvelope.sampleCapture with signerPersonId := "p1" }
    (SignatureEnvelope.sampleNoon 1)

/-- The provider after a call, if it commits. -/
def providerAfter (provider : SignatureEnvelope.System) (call : SignatureEnvelope.Call) :
    SignatureEnvelope.System :=
  (SignatureEnvelope.next SignatureEnvelope.sampleRuntime provider (.committed call)).getD provider

/-- The provider with the envelope of the act. -/
def askedProvider : SignatureEnvelope.System :=
  providerAfter SignatureEnvelope.sampleSystem askingCall

/-- The provider with the envelope completed. -/
def signedProvider : SignatureEnvelope.System := providerAfter askedProvider signingCall

/-- The engine once the provider has the envelope of the act. -/
def providedAct : Engine := { generatedAct with envelopes := askedProvider.envelopes }

/-- The engine once the act has its reference. -/
def askedAct : Engine :=
  { providedAct with
    documents := updateDocument providedAct.documents scannerAct (requestedDocument "sobre-1") }

/-- The engine once the signer has signed, before any sync. -/
def collectedAct : Engine := { askedAct with envelopes := signedProvider.envelopes }

def cancelScannerHandover (engine : Engine) : Except Failure Engine :=
  cancelProcess engine .handover scannerHandover

/-- The engine once the handover is cancelled. -/
def cancelledAct : Engine := attempt cancelScannerHandover collectedAct

theorem providerAfter_spec {provider : SignatureEnvelope.System} {call : SignatureEnvelope.Call}
    (h : (SignatureEnvelope.next SignatureEnvelope.sampleRuntime provider
      (.committed call)).isSome = true) :
    SignatureEnvelope.next SignatureEnvelope.sampleRuntime provider (.committed call) =
      some (providerAfter provider call) := by
  obtain ⟨after, hafter⟩ := Option.isSome_iff_exists.mp h
  unfold providerAfter
  rw [hafter]
  rfl

theorem collectedAct_run :
    ∃ history, Run SignatureEnvelope.sampleRuntime waitingHandover history collectedAct := by
  have hasked := providerAfter_spec (by decide +kernel : (SignatureEnvelope.next
    SignatureEnvelope.sampleRuntime SignatureEnvelope.sampleSystem
      (.committed askingCall)).isSome = true)
  have hsigned := providerAfter_spec (by decide +kernel : (SignatureEnvelope.next
    SignatureEnvelope.sampleRuntime askedProvider (.committed signingCall)).isSome = true)
  have hnone : generatedAct.envelopes = [] := List.isEmpty_iff.mp (by decide +kernel)
  have hprovided : Step SignatureEnvelope.sampleRuntime generatedAct [] providedAct :=
    .provided SignatureEnvelope.sampleSystem askedProvider askingCall hnone.symm (by intro _ h; cases h) hasked
  have hreferred : Step SignatureEnvelope.sampleRuntime providedAct [] askedAct :=
    .requested scannerAct "sobre-1"
  have hsame : askedProvider.envelopes = askedAct.envelopes := by
    dsimp only [askedAct, providedAct]
  have hcollected : Step SignatureEnvelope.sampleRuntime askedAct [] collectedAct :=
    .provided askedProvider signedProvider signingCall hsame (by intro _ h; cases h) hsigned
  exact ⟨_, ((generatedAct_run.step hprovided).step hreferred).step hcollected⟩

end InternalControl.DocumentEngine
