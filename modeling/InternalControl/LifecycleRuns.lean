import InternalControl.ProcessStates
import InternalControl.EnvelopeRuns
import InternalControl.LoanRuns

/-!
# Documents and their processes move together

A run of the engine keeps what its processes were told. A document is signed
exactly when its process has been told so, and it is told once: the status of
the document and what the callback writes are committed together or not at all.
-/

namespace InternalControl.DocumentEngine

open Assets AssetProcesses Documents Fallible
open SignatureEnvelope (Runtime Call)

/-- A document, and what its process was told of it. -/
abbrev Told := RowId × DocumentLifecyclePhase

/-- What the transaction of a sync has told and committed. -/
def toldBy (id : RowId) : SyncOutcome → List Told
  | .stayed => []
  | .moved target => [(id, phaseOf target)]
  | .failed _ _ => []

/-- What other services do: they complete no process by an act, nor undo one,
and cancel none that has an act without the engine. -/
structure Elsewhere (engine : Engine) (system : System) : Prop where
  completed : ∀ process id, completedBy system process id = completedBy engine.system process id
  cancelled : ∀ process id, isCancelled system process id = true →
    isCancelled engine.system process id = true ∨
      ∀ document ∈ engine.documents, Document.isOf document process.entityType id = false

/-- A transaction that commits, and what it tells the processes. A sync may
bring statuses read at any time, and its callback may be cut anywhere. -/
inductive Step (runtime : Runtime) (engine : Engine) : List Told → Engine → Prop
  | generated (input : CallbackInput) (document : DocumentInput) (after : Engine)
      (hcommit : generateWithin input engine document = .ok after) :
      Step runtime engine [(document.id, .onGenerated)] after
  | requested (id : RowId) (reference : String) :
      Step runtime engine []
        { engine with
          documents := updateDocument engine.documents id (requestedDocument reference) }
  | reassigned (id : RowId) (order : ℕ) (person : RowId) :
      Step runtime engine []
        { engine with
          documents := updateDocument engine.documents id (reassignedDocument order person) }
  | provided (provider after : SignatureEnvelope.System) (call : Call)
      (hprovider : provider.envelopes = engine.envelopes)
      (hcall : ∀ reference, call ≠ .void reference)
      (hcommit : SignatureEnvelope.next runtime provider (.committed call) = some after) :
      Step runtime engine [] { engine with envelopes := after.envelopes }
  | synced (input : CallbackInput) (cut : Option (System × Failure)) (id : RowId)
      (statuses : List SignerStatus) :
      Step runtime engine (toldBy id (syncTransaction input cut engine id statuses).2)
        (syncTransaction input cut engine id statuses).1
  | cancelled (process : Process) (id : RowId) (after : Engine)
      (hcommit : cancelProcess engine process id = .ok after) : Step runtime engine [] after
  | elsewhere (system : System) (h : Elsewhere engine system) :
      Step runtime engine [] { engine with system := system }

/-- Transactions one after another, with what they have told in all. -/
inductive Run (runtime : Runtime) (start : Engine) : List Told → Engine → Prop
  | refl : Run runtime start [] start
  | step {history told : List Told} {engine after : Engine} (hrun : Run runtime start history engine)
      (hstep : Step runtime engine told after) : Run runtime start (history ++ told) after

/-! ### The transaction of a sync -/

/-- What the transaction of a sync leaves of a document that it has locked. -/
inductive Synced (input : CallbackInput) (cut : Option (System × Failure)) (engine : Engine)
    (locked slotted : Document) : Engine → SyncOutcome → Prop
  | stayed :
      Synced input cut engine locked slotted
        { engine with documents := saveDocument slotted engine.documents } .stayed
  | moved (target : DocumentStatus) (after : System)
      (hpending : locked.status = .pendingSignature)
      (htarget : target = .signed ∨ target = .rejected) (hcut : cut = none)
      (htold : dispatch input (phaseOf target) engine.system (movedDocument target slotted) =
        .ok after) :
      Synced input cut engine locked slotted
        { engine with
          system := after
          documents := saveDocument (movedDocument target slotted) engine.documents }
        (.moved target)
  | failed (target : DocumentStatus) (failure : Failure)
      (hpending : locked.status = .pendingSignature) :
      Synced input cut engine locked slotted
        { engine with
          documents := saveDocument (failedDocument failure slotted) engine.documents }
        (.failed target failure)

/-- The last of two writes of a document is the one that is kept. -/
theorem saveDocument_saveDocument {document earlier : Document} (hid : earlier.id = document.id)
    (documents : List Document) :
    saveDocument document (saveDocument earlier documents) = saveDocument document documents := by
  unfold saveDocument
  rw [List.map_map]
  refine List.map_congr_left fun other _ => ?_
  by_cases hother : other.id = earlier.id
  · simp [hother, hid]
  · simp [hother, hid ▸ hother]

theorem targetOf_cases {slots : List DocumentSignature} (h : targetOf slots ≠ .pendingSignature) :
    targetOf slots = .signed ∨ targetOf slots = .rejected := by
  unfold targetOf at h ⊢
  split_ifs at h ⊢
  · exact Or.inr rfl
  · exact Or.inl rfl
  · exact absurd rfl h

theorem syncTransaction_missing {engine : Engine} {id : RowId} (h : findDocument engine id = none)
    (input : CallbackInput) (cut : Option (System × Failure)) (statuses : List SignerStatus) :
    syncTransaction input cut engine id statuses = (engine, .stayed) := by
  unfold syncTransaction
  rw [h]

/-- The transaction of a sync, by how it ends. -/
theorem syncTransaction_synced {engine : Engine} {id : RowId} {locked : Document}
    (h : findDocument engine id = some locked) (input : CallbackInput)
    (cut : Option (System × Failure)) (statuses : List SignerStatus) :
    Synced input cut engine locked (slottedDocument statuses locked)
      (syncTransaction input cut engine id statuses).1
      (syncTransaction input cut engine id statuses).2 := by
  unfold syncTransaction
  rw [h]
  dsimp only
  split_ifs with hstays
  · exact .stayed
  rw [not_or, not_not] at hstays
  obtain ⟨hpending, htarget⟩ := hstays
  cases cut with
  | some written =>
    dsimp only [runCallback]
    rw [saveDocument_saveDocument]
    · exact .failed _ written.2 hpending
    · rfl
  | none =>
    cases htold : dispatch input (phaseOf (targetOf (slottedDocument statuses locked).signatures))
        engine.system (movedDocument (targetOf (slottedDocument statuses locked).signatures)
          (slottedDocument statuses locked)) with
    | error failure =>
      dsimp only [runCallback]
      rw [saveDocument_saveDocument]
      · exact .failed _ failure hpending
      · rfl
    | ok after =>
      dsimp only [runCallback]
      rw [saveDocument_saveDocument]
      · exact .moved _ after hpending (targetOf_cases htarget) rfl htold
      · rfl

/-! ### Signed documents -/

/-- The document with an id is there and signed. -/
def isSigned (engine : Engine) (id : RowId) : Bool :=
  engine.documents.any fun document => document.id = id && document.status = .signed

/-- The signed documents, what the processes were told and what they have come
to agree. -/
structure Agrees (history : List Told) (engine : Engine) : Prop where
  ids : (engine.documents.map Document.id).Nodup
  told : ∀ id, history.count (id, .onSigned) = if isSigned engine id then 1 else 0
  signed : ∀ document ∈ engine.documents, document.status = .signed → ∀ process id,
    Document.isOf document (Process.entityType process) id = true → process ≠ .loan →
      completedBy engine.system process id = some document.id
  completed : ∀ process id documentId, completedBy engine.system process id = some documentId →
    ∃ document ∈ engine.documents, document.id = documentId ∧ document.status = .signed ∧
      Document.isOf document (Process.entityType process) id = true

/-- A document is still the act of the same process, and signed if it was. -/
structure SameAct (document changed : Document) : Prop where
  id : changed.id = document.id
  entityType : changed.entityType = document.entityType
  entityId : changed.entityId = document.entityId
  signed : changed.status = .signed ↔ document.status = .signed

/-- The same documents are signed, and the same processes are completed. -/
structure Kept (engine after : Engine) : Prop where
  documents : ∃ change : Document → Document, after.documents = engine.documents.map change ∧
    ∀ document ∈ engine.documents, SameAct document (change document)
  completed : ∀ process id, completedBy after.system process id =
    completedBy engine.system process id

theorem SameAct.refl (document : Document) : SameAct document document :=
  ⟨rfl, rfl, rfl, Iff.rfl⟩

theorem SameAct.isOf {document changed : Document} (h : SameAct document changed)
    (entityType : String) (id : RowId) :
    Document.isOf changed entityType id = Document.isOf document entityType id := by
  unfold Document.isOf
  rw [h.entityType, h.entityId]

theorem isSigned_iff {engine : Engine} {id : RowId} :
    isSigned engine id = true ↔
      ∃ document ∈ engine.documents, document.id = id ∧ document.status = .signed := by
  simp [isSigned]

/-- Two documents with one id are one. -/
theorem eq_of_id {documents : List Document} (hids : (documents.map Document.id).Nodup)
    {document other : Document} (hdocument : document ∈ documents) (hother : other ∈ documents)
    (h : other.id = document.id) : other = document :=
  List.inj_on_of_nodup_map hids hother hdocument h

theorem findDocument_eq_some {engine : Engine} {id : RowId} {document : Document}
    (h : findDocument engine id = some document) :
    document ∈ engine.documents ∧ document.id = id :=
  ⟨List.mem_of_find?_eq_some h, by simpa using List.find?_some h⟩

section Kept

variable {engine after : Engine}

theorem Kept.isSigned (h : Kept engine after) (id : RowId) :
    DocumentEngine.isSigned after id = DocumentEngine.isSigned engine id := by
  obtain ⟨change, hdocuments, hsame⟩ := h.documents
  rw [Bool.eq_iff_iff, isSigned_iff, isSigned_iff, hdocuments]
  constructor
  · rintro ⟨changed, hchanged, hid, hsigned⟩
    obtain ⟨document, hdocument, rfl⟩ := List.mem_map.mp hchanged
    have hact := hsame document hdocument
    exact ⟨document, hdocument, hact.id ▸ hid, hact.signed.mp hsigned⟩
  · rintro ⟨document, hdocument, hid, hsigned⟩
    have hact := hsame document hdocument
    exact ⟨change document, List.mem_map_of_mem hdocument, hact.id.trans hid,
      hact.signed.mpr hsigned⟩

theorem Kept.map_id (h : Kept engine after) :
    after.documents.map Document.id = engine.documents.map Document.id := by
  obtain ⟨change, hdocuments, hsame⟩ := h.documents
  rw [hdocuments, List.map_map]
  exact List.map_congr_left fun document hdocument => (hsame document hdocument).id

theorem Agrees.of_kept {history told : List Told} (h : Agrees history engine)
    (hkept : Kept engine after) (htold : ∀ id, (id, .onSigned) ∉ told) :
    Agrees (history ++ told) after where
  ids := hkept.map_id ▸ h.ids
  told := by
    intro id
    rw [List.count_append, List.count_eq_zero.mpr (htold id), hkept.isSigned id]
    exact h.told id
  signed := by
    intro changed hchanged hsigned process id hof hloan
    obtain ⟨change, hdocuments, hsame⟩ := hkept.documents
    rw [hdocuments] at hchanged
    obtain ⟨document, hdocument, rfl⟩ := List.mem_map.mp hchanged
    have hact := hsame document hdocument
    rw [hact.isOf] at hof
    rw [hkept.completed process id, hact.id]
    exact h.signed document hdocument (hact.signed.mp hsigned) process id hof hloan
  completed := by
    intro process id documentId hcompleted
    rw [hkept.completed process id] at hcompleted
    obtain ⟨document, hdocument, hid, hsigned, hof⟩ :=
      h.completed process id documentId hcompleted
    obtain ⟨change, hdocuments, hsame⟩ := hkept.documents
    have hact := hsame document hdocument
    refine ⟨change document, hdocuments ▸ List.mem_map_of_mem hdocument, hact.id.trans hid,
      hact.signed.mpr hsigned, ?_⟩
    rw [hact.isOf]
    exact hof

theorem Kept.of_documents (hdocuments : after.documents = engine.documents)
    (hcompleted : ∀ process id, completedBy after.system process id =
      completedBy engine.system process id) : Kept engine after where
  documents := ⟨fun document => document, by rw [hdocuments, List.map_id'],
    fun document _ => SameAct.refl document⟩
  completed := hcompleted

theorem Kept.of_update (id : RowId) {change : Document → Document}
    (hchange : ∀ document, SameAct document (change document)) :
    Kept engine { engine with documents := updateDocument engine.documents id change } where
  documents := by
    refine ⟨_, rfl, fun document _ => ?_⟩
    split
    · exact hchange document
    · exact SameAct.refl document
  completed := fun _ _ => rfl

theorem Kept.of_save {locked changed : Document} {system : System}
    (hids : (engine.documents.map Document.id).Nodup) (hlocked : locked ∈ engine.documents)
    (hsame : SameAct locked changed)
    (hcompleted : ∀ process id, completedBy system process id =
      completedBy engine.system process id) :
    Kept engine
      { engine with system := system, documents := saveDocument changed engine.documents } where
  documents := by
    refine ⟨_, rfl, fun document hdocument => ?_⟩
    split
    · next hid =>
      obtain rfl := eq_of_id hids hlocked hdocument (hid.trans hsame.id)
      exact hsame
    · exact SameAct.refl document
  completed := hcompleted

end Kept

/-! ### What each transaction does -/

section Steps

variable {engine after : Engine} {history : List Told}

/-- Voiding an entity finds none of its documents signed, and voids those that
were pending. -/
theorem voidForEntity_eq_ok {entityType : String} {entityId : RowId}
    (h : voidForEntity engine entityType entityId = .ok after) :
    (∀ document ∈ engine.documents, Document.isOf document entityType entityId = true →
      document.status ≠ .signed) ∧
    after.documents = engine.documents.map fun document =>
      if Document.isOf document entityType entityId then voidedDocument document else document := by
  unfold voidForEntity at h
  dsimp only at h
  split at h
  · cases h
  next hsigned =>
  obtain rfl := Except.ok.inj h
  refine ⟨fun document hdocument hof hstatus => ?_, rfl⟩
  have hnone := List.filter_eq_nil_iff.mp (not_not.mp hsigned) document
    (List.mem_filter.mpr ⟨hdocument, hof⟩)
  exact hnone (decide_eq_true hstatus)

theorem voidedDocument_sameAct {document : Document} (h : document.status ≠ .signed) :
    SameAct document (voidedDocument document) := by
  unfold voidedDocument
  split
  · exact ⟨rfl, rfl, rfl, by simp [h]⟩
  · exact SameAct.refl document

theorem Cancels.completedBy {system result : System} {process : Process} {id : RowId}
    (h : Cancels system result process id) (other : Process) (otherId : RowId) :
    DocumentEngine.completedBy result other otherId =
      DocumentEngine.completedBy system other otherId := by
  obtain ⟨hbefore, hleaves⟩ := h
  have hafter := hleaves other otherId
  by_cases hsame : other = process ∧ otherId = id
  · rw [hsame.1, hsame.2, hbefore]
    rw [if_pos hsame, hsame.1, hsame.2] at hafter
    unfold DocumentEngine.completedBy
    rw [hafter]
    rfl
  · rw [if_neg hsame] at hafter
    unfold DocumentEngine.completedBy
    rw [hafter]

theorem Kept.of_cancelProcess {process : Process} {id : RowId}
    (h : cancelProcess engine process id = .ok after) : Kept engine after := by
  obtain ⟨voided, hvoid, hcancels, hafter⟩ := cancelProcess_eq_ok h
  obtain ⟨hunsigned, hdocuments⟩ := voidForEntity_eq_ok hvoid
  refine ⟨⟨_, by rw [hafter]; exact hdocuments, fun document hdocument => ?_⟩,
    hcancels.completedBy⟩
  split
  · next hof => exact voidedDocument_sameAct (hunsigned document hdocument hof)
  · exact SameAct.refl document

/-- A callback of another phase than the signature completes nothing. -/
theorem dispatch_kept {input : CallbackInput} {phase : DocumentLifecyclePhase}
    {system result : System} {document : Document}
    (h : dispatch input phase system document = .ok result) (hphase : phase ≠ .onSigned) :
    ProcessesKept system result := by
  rcases dispatch_heard h with ⟨process, id, _, hheard⟩ | ⟨hkept, _⟩
  · cases hheard with
    | kept _ hkept => exact hkept
    | completed => exact absurd rfl hphase
  · exact hkept

theorem Agrees.generated {input : CallbackInput} {document : DocumentInput}
    (h : Agrees history engine) (hcommit : generateWithin input engine document = .ok after) :
    Agrees (history ++ [(document.id, .onGenerated)]) after := by
  unfold generateWithin at hcommit
  split_ifs at hcommit with hknown
  obtain ⟨system, htold, hcommit⟩ := bind_eq_ok hcommit
  obtain rfl := Except.ok.inj hcommit
  have hkept := dispatch_kept htold nofun
  have hfresh : document.id ∉ engine.documents.map Document.id := by
    intro hmem
    obtain ⟨other, hother, hid⟩ := List.mem_map.mp hmem
    exact hknown (List.any_eq_true.mpr ⟨other, hother, decide_eq_true hid⟩)
  constructor
  · rw [List.map_append, List.nodup_append]
    refine ⟨h.ids, List.nodup_singleton _, ?_⟩
    rintro id hid _ (_ | ⟨_, ⟨⟩⟩) rfl
    exact hfresh hid
  · intro id
    have hsigned : isSigned { engine with
        system := system, documents := engine.documents ++ [newDocument document] } id =
        isSigned engine id := by
      simp [isSigned, newDocument]
    rw [List.count_append, hsigned, h.told id]
    simp
  · intro other hother hsigned process id hof hloan
    rcases List.mem_append.mp hother with hother | hother
    · rw [hkept.completedBy process id]
      exact h.signed other hother hsigned process id hof hloan
    · obtain rfl := List.mem_singleton.mp hother
      cases hsigned
  · intro process id documentId hcompleted
    rw [hkept.completedBy process id] at hcompleted
    obtain ⟨other, hother, hrest⟩ := h.completed process id documentId hcompleted
    exact ⟨other, List.mem_append_left _ hother, hrest⟩

/-- The act that is signed completes its process, if that can be, and no other. -/
theorem dispatch_signed {input : CallbackInput} {system result : System} {document : Document}
    (h : dispatch input .onSigned system document = .ok result) (process : Process) (id : RowId) :
    if Document.isOf document process.entityType id ∧ process ≠ .loan then
      completedBy result process id = some document.id ∧
        (completedBy system process id = none ∨
          completedBy system process id = some document.id)
    else completedBy result process id = completedBy system process id := by
  rcases dispatch_heard h with ⟨own, ownId, hof, hheard⟩ | ⟨hkept, hnone⟩
  · cases hheard with
    | kept hphase hkept =>
      rw [if_neg]
      · exact hkept.completedBy process id
      · rintro ⟨hother, hloan⟩
        exact hloan ((isOf_unique hof hother).1.trans (hphase rfl))
    | completed state hbefore hopen hcancelled hloan hleaves =>
      have hafter := hleaves process id
      by_cases hsame : process = own ∧ id = ownId
      · rw [if_pos hsame] at hafter
        obtain ⟨rfl, rfl⟩ := hsame
        rw [if_pos ⟨hof, hloan⟩]
        refine ⟨by simp [completedBy, hafter], ?_⟩
        simpa [completedBy, hbefore] using hopen
      · rw [if_neg hsame] at hafter
        rw [if_neg fun hother => hsame (isOf_unique hof hother.1)]
        simp [completedBy, hafter]
  · rw [if_neg]
    · exact hkept.completedBy process id
    · rintro ⟨hother, _⟩
      rw [hnone process id] at hother
      cases hother

/-- A document that was pending and becomes signed. -/
theorem Agrees.signedNow {input : CallbackInput} {locked moved : Document} {system : System}
    (h : Agrees history engine) (hlocked : locked ∈ engine.documents)
    (hpending : locked.status = .pendingSignature) (hid : moved.id = locked.id)
    (hsigned : moved.status = .signed)
    (htold : dispatch input .onSigned engine.system moved = .ok system) :
    Agrees (history ++ [(locked.id, .onSigned)])
      { engine with system := system, documents := saveDocument moved engine.documents } := by
  -- the documents are the one that moves and the others as they were
  rw [← hid]
  have hothers : ∀ document ∈ engine.documents, document.id ≠ moved.id →
      document ∈ saveDocument moved engine.documents := fun document hdocument hne =>
    List.mem_map.mpr ⟨document, hdocument, if_neg hne⟩
  have hmoved : moved ∈ saveDocument moved engine.documents :=
    List.mem_map.mpr ⟨locked, hlocked, if_pos hid.symm⟩
  have hcases : ∀ document ∈ saveDocument moved engine.documents,
      document = moved ∨ document ∈ engine.documents ∧ document.id ≠ moved.id := by
    intro document hdocument
    obtain ⟨other, hother, rfl⟩ := List.mem_map.mp hdocument
    split
    · exact Or.inl rfl
    · next hne => exact Or.inr ⟨hother, hne⟩
  have hbefore : ∀ document ∈ engine.documents, document.status = .signed →
      document.id ≠ moved.id := by
    intro document hdocument hstatus hsame
    obtain rfl := eq_of_id h.ids hlocked hdocument (hsame.trans hid)
    rw [hpending] at hstatus
    cases hstatus
  constructor
  · have hmap : (saveDocument moved engine.documents).map Document.id =
        engine.documents.map Document.id := by
      unfold saveDocument
      rw [List.map_map]
      refine List.map_congr_left fun document _ => ?_
      by_cases hsame : document.id = moved.id
      · simp [hsame]
      · simp [hsame]
    exact hmap ▸ h.ids
  · intro id
    rw [List.count_append, h.told id]
    by_cases hsame : id = moved.id
    · subst hsame
      have hnot : isSigned engine moved.id = false := by
        by_contra hother
        obtain ⟨document, hdocument, hsame, hstatus⟩ :=
          isSigned_iff.mp (Bool.not_eq_false _ ▸ hother)
        exact hbefore document hdocument hstatus hsame
      have hnow : isSigned { engine with
          system := system, documents := saveDocument moved engine.documents } moved.id = true :=
        isSigned_iff.mpr ⟨moved, hmoved, rfl, hsigned⟩
      simp [hnot, hnow]
    · have hkept : isSigned { engine with
          system := system, documents := saveDocument moved engine.documents } id =
          isSigned engine id := by
        rw [Bool.eq_iff_iff, isSigned_iff, isSigned_iff]
        constructor
        · rintro ⟨document, hdocument, rfl, hstatus⟩
          rcases hcases document hdocument with rfl | ⟨hdocument, _⟩
          · exact absurd rfl hsame
          · exact ⟨document, hdocument, rfl, hstatus⟩
        · rintro ⟨document, hdocument, rfl, hstatus⟩
          exact ⟨document, hothers document hdocument hsame, rfl, hstatus⟩
      rw [hkept, List.count_eq_zero.mpr (by simp [hsame]), Nat.add_zero]
  · intro document hdocument hstatus process id hof hloan
    have heffect := dispatch_signed htold process id
    rcases hcases document hdocument with rfl | ⟨hdocument, hne⟩
    · rw [if_pos ⟨hof, hloan⟩] at heffect
      exact heffect.1
    · have hcompleted := h.signed document hdocument hstatus process id hof hloan
      split at heffect
      · -- its process was completed by another act
        rcases heffect.2 with hnone | hsame
        · rw [hcompleted] at hnone
          cases hnone
        · rw [hcompleted] at hsame
          exact absurd (Option.some.inj hsame) hne
      · rw [heffect]
        exact hcompleted
  · intro process id documentId hcompleted
    have heffect := dispatch_signed htold process id
    split at heffect
    · next hof =>
      rw [heffect.1] at hcompleted
      exact ⟨moved, hmoved, Option.some.inj hcompleted, hsigned, hof.1⟩
    · rw [heffect] at hcompleted
      obtain ⟨document, hdocument, hsame, hstatus, hof⟩ :=
        h.completed process id documentId hcompleted
      exact ⟨document, hothers document hdocument (hbefore document hdocument hstatus), hsame,
        hstatus, hof⟩

end Steps

/-! ### Runs -/

/-- Nothing is signed yet. -/
structure Unsigned (engine : Engine) : Prop where
  ids : (engine.documents.map Document.id).Nodup
  documents : ∀ document ∈ engine.documents, document.status ≠ .signed
  processes : ∀ process id, completedBy engine.system process id = none

/-- The status of each document. -/
def statusesById (documents : List Document) : List (RowId × DocumentStatus) :=
  documents.map fun document => (document.id, document.status)

/-- The transaction of a sync moves the document with all that its process
writes, or it leaves every status and every process as they were. -/
def Together (input : CallbackInput) (cut : Option (System × Failure)) (engine : Engine)
    (id : RowId) : Engine × SyncOutcome → Prop
  | (after, .moved target) => cut = none ∧ ∃ moved, findDocument after id = some moved ∧
      moved.status = target ∧
      dispatch input (phaseOf target) engine.system moved = .ok after.system
  | (after, _) => after.system = engine.system ∧
      statusesById after.documents = statusesById engine.documents

section Runs

variable {runtime : Runtime} {engine after : Engine} {history told : List Told}

theorem Unsigned.agrees (h : Unsigned engine) : Agrees [] engine where
  ids := h.ids
  told := by
    intro id
    have hnot : isSigned engine id = false := by
      by_contra hsigned
      obtain ⟨document, hdocument, _, hstatus⟩ :=
        isSigned_iff.mp (Bool.not_eq_false _ ▸ hsigned)
      exact h.documents document hdocument hstatus
    rw [hnot]
    rfl
  signed := fun document hdocument hstatus => absurd hstatus (h.documents document hdocument)
  completed := by
    intro process id documentId hcompleted
    rw [h.processes process id] at hcompleted
    cases hcompleted

theorem not_mem_nil_told (id : RowId) : ((id, .onSigned) : Told) ∉ ([] : List Told) :=
  List.not_mem_nil

/-- Every transaction keeps documents, processes and what was told in agreement. -/
theorem Step.agrees (hstep : Step runtime engine told after) (h : Agrees history engine) :
    Agrees (history ++ told) after := by
  cases hstep with
  | generated input document after hcommit => exact h.generated hcommit
  | requested id reference =>
    have hsame : ∀ document, SameAct document (requestedDocument reference document) :=
      fun _ => ⟨rfl, rfl, rfl, Iff.rfl⟩
    exact h.of_kept (Kept.of_update id hsame) not_mem_nil_told
  | reassigned id order person =>
    have hsame : ∀ document, SameAct document (reassignedDocument order person document) :=
      fun _ => ⟨rfl, rfl, rfl, Iff.rfl⟩
    exact h.of_kept (Kept.of_update id hsame) not_mem_nil_told
  | provided provider after call hprovider hcall hcommit =>
    exact h.of_kept (Kept.of_documents rfl fun _ _ => rfl) not_mem_nil_told
  | cancelled process id after hcommit =>
    exact h.of_kept (Kept.of_cancelProcess hcommit) not_mem_nil_told
  | elsewhere system helsewhere =>
    exact h.of_kept (Kept.of_documents rfl helsewhere.completed) not_mem_nil_told
  | synced input cut id statuses =>
    cases hfound : findDocument engine id with
    | none =>
      rw [syncTransaction_missing hfound]
      exact h.of_kept (Kept.of_documents rfl fun _ _ => rfl) not_mem_nil_told
    | some locked =>
      obtain ⟨hlocked, hid⟩ := findDocument_eq_some hfound
      have hsynced := syncTransaction_synced hfound input cut statuses
      revert hsynced
      generalize (syncTransaction input cut engine id statuses).1 = result
      generalize (syncTransaction input cut engine id statuses).2 = outcome
      intro hsynced
      cases hsynced with
      | stayed =>
        have hsame : SameAct locked (slottedDocument statuses locked) := ⟨rfl, rfl, rfl, Iff.rfl⟩
        exact h.of_kept (Kept.of_save h.ids hlocked hsame fun _ _ => rfl) not_mem_nil_told
      | failed target failure hpending =>
        have hsame : SameAct locked (failedDocument failure (slottedDocument statuses locked)) :=
          ⟨rfl, rfl, rfl, Iff.rfl⟩
        exact h.of_kept (Kept.of_save h.ids hlocked hsame fun _ _ => rfl) not_mem_nil_told
      | moved target system hpending htarget hcut hdispatch =>
        rw [← hid]
        rcases htarget with rfl | rfl
        · exact h.signedNow hlocked hpending rfl rfl hdispatch
        · have hsame : SameAct locked (movedDocument .rejected (slottedDocument statuses locked)) :=
            ⟨rfl, rfl, rfl, by simp [hpending, movedDocument]⟩
          have hkept := dispatch_kept hdispatch nofun
          refine h.of_kept (Kept.of_save h.ids hlocked hsame hkept.completedBy) ?_
          simp [toldBy, phaseOf]

/-- Along a run from where nothing is signed, all agree. -/
theorem Run.agrees {start : Engine} (hrun : Run runtime start history engine)
    (hstart : Unsigned start) : Agrees history engine := by
  induction hrun with
  | refl => exact hstart.agrees
  | step _ hstep ih => exact hstep.agrees ih

/-- Writing a document back with the status it had changes no status. -/
theorem statusesById_saveDocument {documents : List Document} {locked changed : Document}
    (hids : (documents.map Document.id).Nodup) (hlocked : locked ∈ documents)
    (hid : changed.id = locked.id) (hstatus : changed.status = locked.status) :
    statusesById (saveDocument changed documents) = statusesById documents := by
  unfold statusesById saveDocument
  rw [List.map_map]
  refine List.map_congr_left fun document hdocument => ?_
  rw [Function.comp_apply]
  split
  · next hsame =>
    obtain rfl := eq_of_id hids hlocked hdocument (hsame.trans hid)
    rw [hid, hstatus]
  · rfl

/-- A sync commits the status of the document and what its process writes
together, wherever the callback is cut. -/
theorem syncTransaction_together (hids : (engine.documents.map Document.id).Nodup)
    (input : CallbackInput) (cut : Option (System × Failure)) (id : RowId)
    (statuses : List SignerStatus) :
    Together input cut engine id (syncTransaction input cut engine id statuses) := by
  cases hfound : findDocument engine id with
  | none =>
    rw [syncTransaction_missing hfound]
    exact ⟨rfl, rfl⟩
  | some locked =>
    obtain ⟨hlocked, hid⟩ := findDocument_eq_some hfound
    have hsynced := syncTransaction_synced hfound input cut statuses
    generalize syncTransaction input cut engine id statuses = outcome at hsynced ⊢
    obtain ⟨result, outcome⟩ := outcome
    cases hsynced with
    | stayed => exact ⟨rfl, statusesById_saveDocument hids hlocked rfl rfl⟩
    | failed target failure _ => exact ⟨rfl, statusesById_saveDocument hids hlocked rfl rfl⟩
    | moved target system _ _ hcut hdispatch =>
      subst hid
      have hwritten : findDocument { engine with
          system := system
          documents := saveDocument (movedDocument target (slottedDocument statuses locked))
            engine.documents } locked.id =
          if locked.id = locked.id then some (movedDocument target (slottedDocument statuses locked))
          else findDocument engine locked.id :=
        find?_replaced Document.id (movedDocument target (slottedDocument statuses locked)) hfound
          locked.id
      rw [if_pos rfl] at hwritten
      exact ⟨hcut, _, hwritten, rfl, hdispatch⟩

end Runs

/-! ### A handover that is signed -/

/-- The handover of the scanner. -/
def scannerHandover : RowId := ⟨"h1", by decide⟩

/-- The act of the handover of the scanner. -/
def scannerAct : RowId := ⟨SignatureEnvelope.sampleDocumentId, by decide⟩

/-- A handover that waits for its act. -/
def waitingHandover : Engine where
  system := { Loans.twoAssets with
    handovers := [{ id := scannerHandover
                    status := .awaitingDocument
                    costCenterId := Loans.lender
                    assignedPersonId := none
                    documentId := none
                    items := openItems [Loans.scanner] }] }
  documents := []
  envelopes := []

/-- What the act says. -/
def scannerActInput : DocumentInput where
  id := scannerAct
  number := "OCI-01-55-1"
  formatKey := Handovers.formatKey
  entityType := some Handovers.entityType
  entityId := some scannerHandover
  signers := [(1, "RECIBE", some Loans.asker)]

/-- A callback that nothing outside keeps from ending. -/
def plainInput : CallbackInput := ⟨id, .ok (), false, .ok (), .ok ()⟩

def generateScannerAct (engine : Engine) : Except Failure Engine :=
  generateWithin plainInput engine scannerActInput

/-- The engine once the act is made. -/
def generatedAct : Engine := attempt generateScannerAct waitingHandover

theorem unsigned_waitingHandover : Unsigned waitingHandover where
  ids := List.nodup_nil
  documents := fun _ hdocument => absurd hdocument List.not_mem_nil
  processes := by
    intro process id
    cases process with
    | handover =>
      by_cases hid : scannerHandover = id
      · simp [completedBy, processState, Handovers.find, waitingHandover, hid, handoverState]
      · simp [completedBy, processState, Handovers.find, waitingHandover, hid]
    | _ => rfl

end InternalControl.DocumentEngine
