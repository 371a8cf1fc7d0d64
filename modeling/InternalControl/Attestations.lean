import InternalControl.Documents
import InternalControl.EnvelopeRuns

/-!
# Attestations

The public attestation of a document reads its envelope, then the signers and
then the current file, each by itself. Over an envelope that only the provider
writes it never reports a change, as long as no signature is given between the
first two reads and no reissue puts other bytes under the key that was read.
-/

namespace InternalControl.Attestations

open Documents SignatureEnvelope StorageKeys

inductive AttestationIntegrity
  | intact
  | altered
  | unavailable
  deriving DecidableEq

inductive AttestationStatus
  | pending
  | signaturesCollected
  | completed
  | rejected
  | voided
  deriving DecidableEq

structure AttestedSigner where
  order : ℕ
  role : String
  name : Option String
  status : SignatureStatus
  signedAt : Option String
  method : Option SignatureMethod
  methodLabel : Option String
  deriving DecidableEq

structure SignatureAttestation where
  reference : String
  status : AttestationStatus
  integrity : AttestationIntegrity
  documentSha256 : String
  signers : List AttestedSigner
  checkedAt : String
  deriving DecidableEq

def attestationStatus (envelope : EnvelopeStatus) (document : DocumentStatus) : AttestationStatus :=
  if document = .voided ∨ envelope = .voided then .voided
  else
    match envelope with
    | .completed => if document = .signed then .completed else .signaturesCollected
    | .rejected => .rejected
    | .pending => .pending
    | .voided => .voided

/-- The hash that signatures lead to, when each begins with the one before it. -/
def followSignatures : String → List SignerRow → Option String
  | expected, [] => some expected
  | expected, signer :: rest =>
    if signer.pdfSha256Before ≠ some expected then none
    else (Text.present signer.pdfSha256After).bind fun after => followSignatures after rest

def signedSlots (signers : List SignerRow) : List SignerRow :=
  signers.filter fun signer => signer.status = .signed

/-- Compare the signatures and the current file, when it can be read, with the envelope. -/
def integrity (runtime : Runtime) (envelope : Envelope) (signers : List SignerRow)
    (content : Option Content) : AttestationIntegrity :=
  match followSignatures envelope.preparedPdfSha256 (signedSlots signers) with
  | none => .altered
  | some expected =>
    if expected ≠ envelope.currentPdfSha256 then .altered
    else
      match content with
      | none => .unavailable
      | some content =>
        if runtime.sha256 content = envelope.currentPdfSha256 then .intact else .altered

def attestedSigner (signer : SignerRow) : AttestedSigner where
  order := signer.signOrder
  role := signer.roleLabel.getD signer.role
  name := if signer.status = .signed then signer.name else none
  status := signer.status
  signedAt := signer.signedAt.map Instant.toISOString
  method := if signer.status = .pending then none else signer.evidence.method
  methodLabel := if signer.status = .pending then none else signer.evidence.method.map methodLabel

/-- The attestation of what three reads have found. -/
def attestation (runtime : Runtime) (envelope : Envelope) (document : DocumentStatus)
    (signers : List SignerRow) (content : Option Content) (now : Instant) : SignatureAttestation where
  reference := envelope.verificationCode
  status := attestationStatus envelope.status document
  integrity := integrity runtime envelope signers content
  documentSha256 := envelope.currentPdfSha256
  signers := signers.map attestedSigner
  checkedAt := now.toISOString

/-- The first read. -/
def findByCode (envelopes : List Envelope) (verificationCode : String) : Option Envelope :=
  envelopes.find? fun envelope => envelope.verificationCode = verificationCode

/-- The second read. -/
def signersOf (envelopes : List Envelope) (envelopeId : String) : List SignerRow :=
  ((envelopes.find? fun envelope => envelope.id = envelopeId).map Envelope.signers).getD []

/-- The third read, which can fail. -/
def Fetched (storage : Storage) (envelope : Envelope) (content : Option Content) : Prop :=
  content = none ∨ content = storage.get? (envelope.currentPdfDriver, envelope.currentPdfKey)

/-! ### Conditions -/

/-- A reissue that gets to its put, with other bytes for the key that was read. -/
def OverwritesRead (runtime : Runtime) (read : Envelope) (system : System)
    (externalReference : String) (input : SignatureRequest) (now : Instant) : Prop :=
  ∃ envelope ∈ system.envelopes, envelope.id = externalReference ∧ envelope.status = .pending ∧
    (∀ signer ∈ envelope.signers, signer.status = .pending) ∧
    runtime.sha256 input.pdf = input.pdfSha256 ∧
    system.driver = read.currentPdfDriver ∧
    reissuedKey runtime input envelope.verificationCode = some read.currentPdfKey ∧
    runtime.sha256 (preparedDocument runtime input envelope.verificationCode now) ≠
      read.currentPdfSha256

/-- The event does not put other bytes under the key that was read. -/
def LeavesRead (runtime : Runtime) (read : Envelope) (system : System) : Event → Prop
  | .committed (.reissue externalReference input now) =>
    ¬OverwritesRead runtime read system externalReference input now
  | .rolledBack (.reissue externalReference input now) puts =>
    puts = 0 ∨ ¬OverwritesRead runtime read system externalReference input now
  | _ => True

/-- The event is not a signature on the envelope that was read. -/
def NotSigning (read : Envelope) : Event → Prop
  | .committed (.capture externalReference _ _) => externalReference ≠ read.id
  | _ => True

/-- A step between the first read and the second. -/
def BeforeSigners (runtime : Runtime) (read : Envelope) (system after : System) : Prop :=
  ∃ event, next runtime system event = some after ∧ Promised system event ∧
    KeepsCurrent runtime system event ∧ LeavesRead runtime read system event ∧
    NotSigning read event

/-- A step between the second read and the third. -/
def BeforeFile (runtime : Runtime) (read : Envelope) (system after : System) : Prop :=
  ∃ event, next runtime system event = some after ∧ Promised system event ∧
    KeepsCurrent runtime system event ∧ LeavesRead runtime read system event

/-! ### What is read -/

section Reads

variable {runtime : Runtime} {envelope : Envelope} {signers : List SignerRow}

theorem chain_of_followSignatures {start current : String}
    (h : followSignatures start signers = some current) : HashChain start signers current := by
  induction signers generalizing start with
  | nil => exact Option.some.inj h
  | cons signer rest ih =>
    rw [followSignatures] at h
    split at h
    · cases h
    · next hbefore =>
      obtain ⟨after, hpresent, hrest⟩ := Option.bind_eq_some_iff.mp h
      have hafter := (Text.present_eq_some.mp hpresent).1
      exact ⟨not_not.mp hbefore, after, hafter, ih hrest⟩

/-- A chain of hashes that are not empty is followed to its end. -/
theorem followSignatures_of_chain {start current : String} (h : HashChain start signers current)
    (hhashed : ∀ signer ∈ signers, signer.pdfSha256After ≠ some "") :
    followSignatures start signers = some current := by
  induction signers generalizing start with
  | nil =>
    have hsame : start = current := h
    rw [followSignatures, hsame]
  | cons signer rest ih =>
    obtain ⟨hbefore, after, hafter, hrest⟩ := h
    have hne : after ≠ "" := by
      intro hempty
      rw [hempty] at hafter
      exact hhashed signer List.mem_cons_self hafter
    have hpresent : Text.present signer.pdfSha256After = some after :=
      Text.present_eq_some.mpr ⟨hafter, hne⟩
    rw [followSignatures, if_neg (not_not.mpr hbefore), hpresent, Option.bind_some]
    exact ih hrest fun other hother => hhashed other (List.mem_cons_of_mem _ hother)

/-- Nothing is called intact whose signatures and file do not lead to the current hash. -/
theorem chain_of_intact {content : Option Content}
    (h : integrity runtime envelope signers content = .intact) :
    HashChain envelope.preparedPdfSha256 (signedSlots signers) envelope.currentPdfSha256 ∧
      ∃ bytes, content = some bytes ∧ runtime.sha256 bytes = envelope.currentPdfSha256 := by
  unfold integrity at h
  split at h
  · cases h
  · next expected hfollow =>
    split_ifs at h with hcurrent
    have hsame : expected = envelope.currentPdfSha256 := not_not.mp hcurrent
    rw [hsame] at hfollow
    refine ⟨chain_of_followSignatures hfollow, ?_⟩
    split at h
    · cases h
    · next bytes =>
      split_ifs at h with hhash
      exact ⟨bytes, rfl, hhash⟩

/-- Nothing is called altered whose signatures lead to the current hash, with a file that has it or
cannot be read. -/
theorem integrity_ne_altered {storage : Storage} {content : Option Content}
    (hfollow : followSignatures envelope.preparedPdfSha256 (signedSlots signers) =
      some envelope.currentPdfSha256)
    (hstored : Stored runtime storage envelope) (hfetched : Fetched storage envelope content) :
    integrity runtime envelope signers content ≠ .altered := by
  obtain ⟨bytes, hbytes, hhash⟩ := hstored
  unfold integrity
  rw [hfollow]
  rcases hfetched with hnone | hread
  · rw [hnone]
    simp
  · rw [hread, hbytes]
    simp [hhash]

end Reads

/-! ### The signed slots -/

/-- What a call makes of an envelope. Only a signature adds to its signed slots. -/
structure Rewritten (runtime : Runtime) (call : Call) (row later : Envelope) : Prop where
  id : later.id = row.id
  code : later.verificationCode = row.verificationCode
  slots : signedSlots later.signers = signedSlots row.signers ∨
    (∃ input now, call = .capture row.id input now) ∧
      signedSlots row.signers ⊆ signedSlots later.signers ∧
      ∀ signer ∈ signedSlots later.signers, signer ∈ signedSlots row.signers ∨
        ∃ content, signer.pdfSha256After = some (runtime.sha256 content)

section Slots

variable {runtime : Runtime} {system : System} {call : Call} {envelopes : List Envelope}

theorem Rewritten.refl (row : Envelope) : Rewritten runtime call row row :=
  ⟨rfl, rfl, .inl rfl⟩

theorem mem_signedSlots {signers : List SignerRow} {signer : SignerRow} :
    signer ∈ signedSlots signers ↔ signer ∈ signers ∧ signer.status = .signed := by
  unfold signedSlots
  rw [List.mem_filter, decide_eq_true_eq]

theorem signedSlots_eq_nil {signers : List SignerRow}
    (h : ∀ signer ∈ signers, signer.status ≠ .signed) : signedSlots signers = [] :=
  List.filter_eq_nil_iff.mpr fun signer hsigner => by simpa using h signer hsigner

/-- Changes of slots that are not signed before or after leave the signed ones alone. -/
theorem signedSlots_map {change : SignerRow → SignerRow} {signers : List SignerRow}
    (h : ∀ signer ∈ signers, change signer = signer ∨
      signer.status ≠ .signed ∧ (change signer).status ≠ .signed) :
    signedSlots (signers.map change) = signedSlots signers := by
  unfold signedSlots
  induction signers with
  | nil => rfl
  | cons signer rest ih =>
    have hrest := ih fun other hother => h other (List.mem_cons_of_mem _ hother)
    rw [List.map_cons]
    rcases h signer List.mem_cons_self with hsame | ⟨hbefore, hafter⟩
    · rw [hsame, List.filter_cons, List.filter_cons, hrest]
    · rw [List.filter_cons_of_neg (by simpa using hafter),
        List.filter_cons_of_neg (by simpa using hbefore), hrest]

/-- What an update makes of the envelopes. -/
theorem rewritten_updateEnvelope {id : String} {change : Envelope → Envelope}
    (h : ∀ row ∈ system.envelopes, row.id = id → Rewritten runtime call row (change row)) :
    (∀ row ∈ system.envelopes, ∃ later ∈ updateEnvelope system.envelopes id change,
      Rewritten runtime call row later) ∧
    ∀ later ∈ updateEnvelope system.envelopes id change,
      (∃ row ∈ system.envelopes, Rewritten runtime call row later) ∨
        signedSlots later.signers = [] := by
  have hone : ∀ row ∈ system.envelopes,
      Rewritten runtime call row (if row.id = id then change row else row) := by
    intro row hrow
    split
    · next hid => exact h row hrow hid
    · exact Rewritten.refl row
  refine ⟨fun row hrow => ⟨_, List.mem_map_of_mem hrow, hone row hrow⟩, fun later hlater => ?_⟩
  obtain ⟨row, hrow, rfl⟩ := List.mem_map.mp hlater
  exact .inl ⟨row, hrow, hone row hrow⟩

theorem rewritten_capture (h : Invariant runtime system) {reference : String}
    {input : SignatureCapture} {now : Instant}
    (houtcome : (capture runtime system reference input now).outcome = .ok envelopes) :
    (∀ row ∈ system.envelopes, ∃ later ∈ envelopes,
      Rewritten runtime (.capture reference input now) row later) ∧
    ∀ later ∈ envelopes,
      (∃ row ∈ system.envelopes, Rewritten runtime (.capture reference input now) row later) ∨
        signedSlots later.signers = [] := by
  rcases capture_cases runtime system reference input now with
    ⟨error, hattempt⟩ | ⟨target, htarget, hreference, signer, hnext, rubricKey, -, hcases⟩
  · rw [hattempt] at houtcome
    cases houtcome
  · rcases hcases with ⟨error, hattempt⟩ | ⟨stored, rubric, -, hattempt⟩
    · rw [hattempt] at houtcome
      cases houtcome
    · rw [hattempt] at houtcome
      cases houtcome
      refine rewritten_updateEnvelope fun row hrow hid => ?_
      have hsame : row = target := h.eq_of_id htarget hrow hid
      rw [hsame]
      have hvalid := h.envelopes target htarget
      refine ⟨rfl, rfl, .inr ⟨⟨input, now, by rw [hreference]⟩, fun other hother => ?_,
        fun other hother => ?_⟩⟩
      · obtain ⟨hmem, hsigned⟩ := mem_signedSlots.mp hother
        exact mem_signedSlots.mpr ⟨hvalid.mem_updateSigner hnext hmem hsigned _, hsigned⟩
      · obtain ⟨hmem, hsigned⟩ := mem_signedSlots.mp hother
        obtain ⟨old, hold, rfl⟩ := List.mem_map.mp hmem
        by_cases horder : old.signOrder = input.order
        · rw [if_pos horder]
          exact .inr ⟨stored.body, rfl⟩
        · rw [if_neg horder] at hsigned ⊢
          exact .inl (mem_signedSlots.mpr ⟨hold, hsigned⟩)

theorem signedSlots_rejected {storage : Storage} {target : Envelope} {signer : SignerRow}
    (h : Valid runtime storage target) {rejection : SignatureRejection} {now : Instant}
    {before : String}
    (hnext : nextSigner target rejection.order rejection.signerPersonId = .ok signer) :
    signedSlots (rejectedEnvelope rejection now before target).signers =
      signedSlots target.signers := by
  obtain ⟨-, horder, done, later, hprogress⟩ := h.progress_of_nextSigner hnext
  have hsigner : signer ∈ target.signers := by
    rw [hprogress.slots]
    simp
  refine signedSlots_map fun other hother => ?_
  by_cases hsame : other.signOrder = rejection.order
  · have heq : other = signer :=
      List.inj_on_of_nodup_map h.nodup_orders hother hsigner (hsame.trans horder.symm)
    rw [if_pos hsame]
    refine .inr ⟨heq ▸ hprogress.waiting.not_signed signer List.mem_cons_self, ?_⟩
    simp [rejectedRow]
  · exact .inl (if_neg hsame)

theorem rewritten_reject (h : Invariant runtime system) {reference : String}
    {rejection : SignatureRejection} {now : Instant}
    (houtcome : (reject system reference rejection now).outcome = .ok envelopes) :
    (∀ row ∈ system.envelopes, ∃ later ∈ envelopes,
      Rewritten runtime (.reject reference rejection now) row later) ∧
    ∀ later ∈ envelopes,
      (∃ row ∈ system.envelopes, Rewritten runtime (.reject reference rejection now) row later) ∨
        signedSlots later.signers = [] := by
  unfold SignatureEnvelope.reject at houtcome
  split at houtcome
  · cases houtcome
  · next target hfound =>
    split at houtcome
    · cases houtcome
    · next signer hnext =>
      cases houtcome
      have htarget := (envelope_eq_ok hfound).1
      refine rewritten_updateEnvelope fun row hrow hid => ?_
      have hsame : row = target := h.eq_of_id htarget hrow hid
      rw [hsame]
      exact ⟨rfl, rfl, .inl (signedSlots_rejected (h.envelopes target htarget) hnext)⟩

theorem rewritten_voided (row : Envelope) : Rewritten runtime call row (voidedEnvelope row) := by
  unfold voidedEnvelope
  split
  · exact ⟨rfl, rfl, .inl rfl⟩
  · exact Rewritten.refl row

theorem rewritten_reissue (h : Invariant runtime system) {reference : String}
    {input : SignatureRequest} {now : Instant}
    (houtcome : (reissue runtime system reference input now).outcome = .ok envelopes) :
    (∀ row ∈ system.envelopes, ∃ later ∈ envelopes,
      Rewritten runtime (.reissue reference input now) row later) ∧
    ∀ later ∈ envelopes,
      (∃ row ∈ system.envelopes, Rewritten runtime (.reissue reference input now) row later) ∨
        signedSlots later.signers = [] := by
  rcases reissue_cases runtime system reference input now with
    ⟨error, hattempt⟩ | ⟨target, htarget, -, -, hpending, -, key, -, hattempt⟩
  · rw [hattempt] at houtcome
    cases houtcome
  · rw [hattempt] at houtcome
    cases houtcome
    refine rewritten_updateEnvelope fun row hrow hid => ?_
    have hsame : row = target := h.eq_of_id htarget hrow hid
    rw [hsame]
    obtain ⟨change, hchange, hstatus⟩ := reassigned_eq_map (signersInOrder input) target.signers
    refine ⟨rfl, rfl, .inl ?_⟩
    unfold reissuedEnvelope
    dsimp only
    rw [hchange]
    refine signedSlots_map fun signer hsigner => .inr ⟨?_, ?_⟩
    · rw [hpending signer hsigner]
      decide
    · rw [(hstatus signer).2, hpending signer hsigner]
      decide

/-- What a committed call makes of the envelopes. -/
theorem rewritten_of_outcome (h : Invariant runtime system)
    (houtcome : (attempt runtime system call).outcome = .ok envelopes) :
    (∀ row ∈ system.envelopes, ∃ later ∈ envelopes, Rewritten runtime call row later) ∧
    ∀ later ∈ envelopes, (∃ row ∈ system.envelopes, Rewritten runtime call row later) ∨
      signedSlots later.signers = [] := by
  cases call with
  | request input code id now =>
    have hrequest : (request runtime system input code id now).outcome = .ok envelopes := houtcome
    rcases request_cases runtime system input code id now with
      ⟨error, hattempt⟩ | ⟨stored, suffix, -, -, hcases⟩
    · rw [hattempt] at hrequest
      cases hrequest
    · rcases hcases with ⟨error, hattempt⟩ | ⟨-, hattempt⟩
      · rw [hattempt] at hrequest
        cases hrequest
      · rw [hattempt] at hrequest
        cases hrequest
        refine ⟨fun row hrow => ⟨row, List.mem_append_left _ hrow, Rewritten.refl row⟩,
          fun later hlater => ?_⟩
        rcases List.mem_append.mp hlater with hold | hnew
        · exact .inl ⟨later, hold, Rewritten.refl later⟩
        · rw [List.mem_singleton.mp hnew]
          refine .inr (signedSlots_eq_nil fun signer hsigner => ?_)
          obtain ⟨requested, -, rfl⟩ := List.mem_map.mp hsigner
          simp [newSigner]
  | capture reference input now => exact rewritten_capture h houtcome
  | reject reference rejection now => exact rewritten_reject h houtcome
  | void reference =>
    cases houtcome
    exact rewritten_updateEnvelope fun row _ _ => rewritten_voided row
  | reissue reference input now => exact rewritten_reissue h houtcome

end Slots

/-! ### Before the first read -/

/-- Every signature has a hash after it. -/
def Hashed (system : System) : Prop :=
  ∀ envelope ∈ system.envelopes, ∀ signer ∈ signedSlots envelope.signers,
    signer.pdfSha256After ≠ some ""

section Before

variable {runtime : Runtime} {system after : System}

theorem Hashed.step (hsha256 : ∀ content, runtime.sha256 content ≠ "") (h : Hashed system)
    (hinvariant : Invariant runtime system) (hstep : KeepingStep runtime system after) :
    Hashed after := by
  obtain ⟨event, hnext, -, -⟩ := hstep
  cases event with
  | configured driver =>
    cases hnext
    exact h
  | rolledBack call puts =>
    cases hnext
    exact h
  | committed call =>
    simp only [next] at hnext
    split at hnext
    · cases hnext
    · next envelopes houtcome =>
      cases hnext
      intro later hlater signer hsigner
      rcases (rewritten_of_outcome hinvariant houtcome).2 later hlater with
        ⟨row, hrow, hrewritten⟩ | hnone
      · rcases hrewritten.slots with hsame | ⟨-, -, hnew⟩
        · rw [hsame] at hsigner
          exact h row hrow signer hsigner
        · rcases hnew signer hsigner with hold | ⟨content, hafter⟩
          · exact h row hrow signer hold
          · rw [hafter]
            exact fun hempty => hsha256 content (Option.some.inj hempty)
      · rw [hnone] at hsigner
        cases hsigner

theorem hashed_of_run (hsha256 : ∀ content, runtime.sha256 content ≠ "") {start : System}
    (hstart : start.envelopes = [])
    (hrun : Relation.ReflTransGen (KeepingStep runtime) start system) :
    Invariant runtime system ∧ Hashed system := by
  induction hrun with
  | refl =>
    refine ⟨invariant_nil hstart, fun envelope henvelope => ?_⟩
    rw [hstart] at henvelope
    cases henvelope
  | tail _ hstep ih => exact ⟨(ih.1.step hstep).1, ih.2.step hsha256 ih.1 hstep⟩

end Before

/-! ### After the first read -/

/-- The files that are not put again: the prepared ones but by a reissue, and what was stamped for a
signature. -/
def PutFor (current : Envelope) : SignatureFile → Prop
  | .prepared _ => True
  | .rubric _ => False
  | .stamped order => ∃ signer ∈ signedSlots current.signers, signer.signOrder = order

/-- The envelope that was read is still there, and the file that was current then is as it was. -/
structure Tracked (runtime : Runtime) (read : Envelope) (system : System) (current : Envelope) :
    Prop where
  mem : current ∈ system.envelopes
  id : current.id = read.id
  code : current.verificationCode = read.verificationCode
  file : ∃ file, file.Proper ∧ IsKeyOf read.verificationCode file read.currentPdfKey ∧
    PutFor current file
  stored : Stored runtime system.storage read

section After

variable {runtime : Runtime} {read current : Envelope} {system after : System} {call : Call}

theorem tracked_read (h : Invariant runtime system) (hread : read ∈ system.envelopes) :
    Tracked runtime read system read := by
  have hvalid := h.envelopes read hread
  obtain ⟨done, rest, hprogress⟩ := hvalid.progress
  obtain ⟨file, hproper, hkey, hholds⟩ := hprogress.file
  refine ⟨hread, rfl, rfl, ⟨file, hproper, hkey, ?_⟩, hvalid.stored⟩
  unfold HoldsCurrent at hholds
  split at hholds
  · obtain ⟨suffix, rfl⟩ := hholds
    trivial
  · next last hlast =>
    subst hholds
    have hdone : last ∈ done := List.mem_of_getLast? hlast
    refine ⟨last, mem_signedSlots.mpr ⟨?_, hprogress.signed last hdone⟩, rfl⟩
    rw [hprogress.slots]
    exact List.mem_append_left _ hdone

/-- The rubric and the stamped document of a signature are other files than the one that was
read. -/
theorem Tracked.harmless_capture (h : Invariant runtime system)
    (htracked : Tracked runtime read system current) {target : Envelope}
    (htarget : target ∈ system.envelopes) {input : SignatureCapture} {signer : SignerRow}
    (hnext : nextSigner target input.order input.signerPersonId = .ok signer)
    {kind : SignatureFile} (hkind : kind = .rubric input.order ∨ kind = .stamped input.order)
    {file : PutObject} (hkey : IsKeyOf target.verificationCode kind file.key) :
    Harmless runtime read file := by
  intro hsame
  exfalso
  have hvalid := h.envelopes target htarget
  obtain ⟨-, horder, done, later, hprogress⟩ := hvalid.progress_of_nextSigner hnext
  have hsigner : signer ∈ target.signers := by
    rw [hprogress.slots]
    simp
  have hproper : kind.Proper := by
    rcases hkind with rfl | rfl
    · trivial
    · exact horder ▸ hvalid.positive signer hsigner
  obtain ⟨held, hheld, hheldKey, hput⟩ := htracked.file
  rw [(Prod.mk.inj hsame).2] at hkey
  obtain ⟨hcode, hfile⟩ := hheldKey.inj hkey hheld hproper
  have htargetCurrent : current = target :=
    h.eq_of_code htarget htracked.mem (htracked.code.trans hcode)
  rw [hfile] at hput
  rcases hkind with rfl | rfl
  · exact hput
  · obtain ⟨signed, hsigned, hsignedOrder⟩ := hput
    obtain ⟨hmem, hstatus⟩ := mem_signedSlots.mp hsigned
    rw [htargetCurrent] at hmem
    have heq : signed = signer :=
      List.inj_on_of_nodup_map hvalid.nodup_orders hmem hsigner (hsignedOrder.trans horder.symm)
    exact hprogress.waiting.not_signed signer List.mem_cons_self (heq ▸ hstatus)

/-- What a call puts leaves the file that was read, unless it is a reissue that overwrites it. -/
theorem Tracked.harmless (h : Invariant runtime system)
    (htracked : Tracked runtime read system current) (hpromised : PromisedCall system call)
    (hleaves : ∀ reference input now, call = .reissue reference input now →
      ¬OverwritesRead runtime read system reference input now) :
    ∀ file ∈ (attempt runtime system call).puts, Harmless runtime read file := by
  intro file hfile
  cases call with
  | request input code id now =>
    intro hsame
    exfalso
    have hfresh := (hpromised.1 current htracked.mem).2
    have hputs : file ∈ (request runtime system input code id now).puts := hfile
    rcases request_cases runtime system input code id now with
      ⟨error, hattempt⟩ | ⟨stored, suffix, hproper, hkey, hcases⟩
    · rw [hattempt] at hputs
      cases hputs
    · have hstored : file = stored := by
        rcases hcases with ⟨error, hattempt⟩ | ⟨-, hattempt⟩
        · rw [hattempt] at hputs
          exact List.mem_singleton.mp hputs
        · rw [hattempt] at hputs
          exact List.mem_singleton.mp hputs
      rw [← hstored, (Prod.mk.inj hsame).2] at hkey
      obtain ⟨held, hheld, hheldKey, -⟩ := htracked.file
      exact hfresh (htracked.code.trans (hheldKey.inj hkey hheld hproper).1)
  | capture reference input now =>
    have hputs : file ∈ (capture runtime system reference input now).puts := hfile
    rcases capture_cases runtime system reference input now with
      ⟨error, hattempt⟩ | ⟨target, htarget, -, signer, hnext, rubricKey, hrubric, hcases⟩
    · rw [hattempt] at hputs
      cases hputs
    · rcases hcases with ⟨error, hattempt⟩ | ⟨stored, rubric, hstamped, hattempt⟩
      · rw [hattempt] at hputs
        rw [List.mem_singleton.mp hputs]
        exact htracked.harmless_capture h htarget hnext (.inl rfl) hrubric
      · rw [hattempt] at hputs
        rcases List.mem_cons.mp hputs with rfl | hrest
        · exact htracked.harmless_capture h htarget hnext (.inl rfl) hrubric
        · rw [List.mem_singleton.mp hrest]
          exact htracked.harmless_capture h htarget hnext (.inr rfl) hstamped
  | reject reference rejection now =>
    have hputs : file ∈ (reject system reference rejection now).puts := hfile
    unfold SignatureEnvelope.reject at hputs
    split at hputs
    · cases hputs
    · split at hputs <;> cases hputs
  | void reference => cases hfile
  | reissue reference input now =>
    have hputs : file ∈ (reissue runtime system reference input now).puts := hfile
    rcases reissue_cases runtime system reference input now with
      ⟨error, hattempt⟩ | ⟨target, htarget, hid, hstatus, hpending, hhash, key, hkey, hattempt⟩
    · rw [hattempt] at hputs
      cases hputs
    · rw [hattempt] at hputs
      rw [List.mem_singleton.mp hputs]
      intro hsame
      by_contra hother
      obtain ⟨hdriver, hcurrent⟩ := Prod.mk.inj hsame
      exact hleaves reference input now rfl ⟨target, htarget, hid, hstatus, hpending, hhash, hdriver,
        hcurrent ▸ hkey, hother⟩

theorem Rewritten.putFor {row later : Envelope} (h : Rewritten runtime call row later)
    {file : SignatureFile} (hput : PutFor row file) : PutFor later file := by
  cases file with
  | prepared suffix => trivial
  | rubric order => exact hput
  | stamped order =>
    obtain ⟨signer, hsigner, horder⟩ := hput
    refine ⟨signer, ?_, horder⟩
    rcases h.slots with hsame | ⟨-, hkept, -⟩
    · rw [hsame]
      exact hsigner
    · exact hkept hsigner

/-- The envelope that was read and its file over a step, with its signed slots when the step is not
a signature on it. -/
theorem Tracked.step (h : Invariant runtime system) (htracked : Tracked runtime read system current)
    {event : Event} (hnext : next runtime system event = some after)
    (hpromised : Promised system event) (hleaves : LeavesRead runtime read system event) :
    ∃ later, Tracked runtime read after later ∧
      (NotSigning read event → signedSlots later.signers = signedSlots current.signers) := by
  cases event with
  | configured driver =>
    cases hnext
    exact ⟨current, ⟨htracked.mem, htracked.id, htracked.code, htracked.file, htracked.stored⟩,
      fun _ => rfl⟩
  | rolledBack call puts =>
    cases hnext
    refine ⟨current, ⟨htracked.mem, htracked.id, htracked.code, htracked.file, ?_⟩, fun _ => rfl⟩
    by_cases hnone : puts = 0
    · rw [hnone, List.take_zero]
      exact htracked.stored
    · refine htracked.stored.putAll fun file hfile => ?_
      refine htracked.harmless h hpromised ?_ file (List.mem_of_mem_take hfile)
      rintro reference input now rfl
      exact hleaves.resolve_left hnone
  | committed call =>
    simp only [next] at hnext
    split at hnext
    · cases hnext
    · next envelopes houtcome =>
      cases hnext
      obtain ⟨later, hlater, hrewritten⟩ :=
        (rewritten_of_outcome h houtcome).1 current htracked.mem
      obtain ⟨file, hproper, hkey, hput⟩ := htracked.file
      refine ⟨later, ⟨hlater, hrewritten.id.trans htracked.id, hrewritten.code.trans htracked.code,
        ⟨file, hproper, hkey, hrewritten.putFor hput⟩, ?_⟩, fun hnot => ?_⟩
      · refine htracked.stored.putAll fun file hfile => htracked.harmless h hpromised ?_ file hfile
        rintro reference input now rfl
        exact hleaves
      · rcases hrewritten.slots with hsame | ⟨⟨input, now, rfl⟩, -⟩
        · exact hsame
        · exact absurd htracked.id hnot

theorem BeforeFile.keeping (h : BeforeFile runtime read system after) :
    KeepingStep runtime system after := by
  obtain ⟨event, hnext, hpromised, hkeeps, -⟩ := h
  exact ⟨event, hnext, hpromised, hkeeps⟩

theorem BeforeSigners.beforeFile (h : BeforeSigners runtime read system after) :
    BeforeFile runtime read system after := by
  obtain ⟨event, hnext, hpromised, hkeeps, hleaves, -⟩ := h
  exact ⟨event, hnext, hpromised, hkeeps, hleaves⟩

/-- Up to the second read the signed slots are the ones that there were at the first. -/
theorem Tracked.until_signers (h : Invariant runtime system)
    (htracked : Tracked runtime read system current)
    (hrun : Relation.ReflTransGen (BeforeSigners runtime read) system after) :
    Invariant runtime after ∧ ∃ later, Tracked runtime read after later ∧
      signedSlots later.signers = signedSlots current.signers := by
  induction hrun with
  | refl => exact ⟨h, current, htracked, rfl⟩
  | tail _ hstep ih =>
    obtain ⟨hinvariant, later, hlater, hslots⟩ := ih
    have hkeeping := hstep.beforeFile.keeping
    obtain ⟨event, hnext, hpromised, -, hleaves, hnot⟩ := hstep
    obtain ⟨last, hlast, hsame⟩ := hlater.step hinvariant hnext hpromised hleaves
    exact ⟨(hinvariant.step hkeeping).1, last, hlast, (hsame hnot).trans hslots⟩

theorem Tracked.until_file (h : Invariant runtime system)
    (htracked : Tracked runtime read system current)
    (hrun : Relation.ReflTransGen (BeforeFile runtime read) system after) :
    Invariant runtime after ∧ ∃ later, Tracked runtime read after later := by
  induction hrun with
  | refl => exact ⟨h, current, htracked⟩
  | tail _ hstep ih =>
    obtain ⟨hinvariant, later, hlater⟩ := ih
    have hkeeping := hstep.keeping
    obtain ⟨event, hnext, hpromised, -, hleaves⟩ := hstep
    obtain ⟨last, hlast, -⟩ := hlater.step hinvariant hnext hpromised hleaves
    exact ⟨(hinvariant.step hkeeping).1, last, hlast⟩

theorem signersOf_eq (h : Invariant runtime system) (htracked : Tracked runtime read system current) :
    signersOf system.envelopes read.id = current.signers := by
  unfold signersOf
  cases hfound : system.envelopes.find? fun envelope => envelope.id = read.id with
  | none =>
    have hnone := List.find?_eq_none.mp hfound current htracked.mem
    exact absurd (decide_eq_true htracked.id) hnone
  | some found =>
    have hid : found.id = read.id := by simpa using List.find?_some hfound
    have hsame : found = current :=
      h.eq_of_id htracked.mem (List.mem_of_find?_eq_some hfound) (hid.trans htracked.id.symm)
    rw [hsame]
    rfl

/-- An attestation that calls a document intact has seen its signatures and its file lead to the
current hash. None calls altered what only the provider has written, when no signature is given
between its first two reads and the file that was current at the first stays as it is. -/
theorem attestation_is_right (runtime : Runtime) :
    (∀ envelope document signers content now,
      (attestation runtime envelope document signers content now).integrity = .intact →
        HashChain envelope.preparedPdfSha256 (signedSlots signers) envelope.currentPdfSha256 ∧
          ∃ bytes, content = some bytes ∧ runtime.sha256 bytes = envelope.currentPdfSha256) ∧
    ∀ start first second third code read document content now,
      (∀ content, runtime.sha256 content ≠ "") → start.envelopes = [] →
      Relation.ReflTransGen (KeepingStep runtime) start first →
      findByCode first.envelopes code = some read →
      Relation.ReflTransGen (BeforeSigners runtime read) first second →
      Relation.ReflTransGen (BeforeFile runtime read) second third →
      Fetched third.storage read content →
      (attestation runtime read document (signersOf second.envelopes read.id) content
        now).integrity ≠ .altered := by
  refine ⟨fun _ _ _ _ _ hintact => chain_of_intact hintact, ?_⟩
  intro start first second third code read document content now hsha256 hstart hbefore hread
    hsigners hfile hfetched
  obtain ⟨hinvariant, hhashed⟩ := hashed_of_run hsha256 hstart hbefore
  have hmem : read ∈ first.envelopes := List.mem_of_find?_eq_some hread
  obtain ⟨hinvariant', later, hlater, hslots⟩ :=
    (tracked_read hinvariant hmem).until_signers hinvariant hsigners
  obtain ⟨-, last, hlast⟩ := hlater.until_file hinvariant' hfile
  have hchain := (hinvariant.envelopes read hmem).whole.chain
  have hfollow : followSignatures read.preparedPdfSha256
      (signedSlots (signersOf second.envelopes read.id)) = some read.currentPdfSha256 := by
    rw [signersOf_eq hinvariant' hlater, hslots]
    exact followSignatures_of_chain hchain (hhashed read hmem)
  exact integrity_ne_altered hfollow hlast.stored hfetched

end After

/-! ### A signature while a document is attested -/

/-- A committed call. -/
def CommittedStep (runtime : Runtime) (system after : System) : Prop :=
  ∃ call, next runtime system (.committed call) = some after ∧ PromisedCall system call

section Samples

/-- The hashes of the sample documents. Any other has the one of no bytes. -/
def attestedRuntime : Runtime :=
  { sampleRuntime with
    sha256 := fun content =>
      ((sampleHashes.find? fun entry => entry.1 = content).map Prod.snd).getD
        "e3b0c44298fc1c149afbf4c8996fb92427ae41e4649b934ca495991b7852b855" }

def attestedCode : String := "AAAAAAAAAAAAAAAAAAAAAAAAAAAAAAAA"

def requested : Call := .request sampleRequest attestedCode "sobre-1" (sampleNoon 0)

def signed : Call := .capture "sobre-1" sampleCapture (sampleNoon 1)

theorem attestedRuntime_sha256 (content : Content) : attestedRuntime.sha256 content ≠ "" := by
  have hhashes : ∀ entry ∈ sampleHashes, entry.2 ≠ "" := by simp [sampleHashes]
  unfold attestedRuntime
  dsimp only
  cases hfound : sampleHashes.find? fun entry => entry.1 = content with
  | none => simp
  | some entry => exact hhashes entry (List.mem_of_find?_eq_some hfound)

/-- The requested envelope as the first read finds it, with the states before and after its
signature. -/
def attestedAround : Option (Envelope × System × System) :=
  (next attestedRuntime sampleSystem (.committed requested)).bind fun first =>
    (findByCode first.envelopes attestedCode).bind fun read =>
      (next attestedRuntime first (.committed signed)).map fun second => (read, first, second)

theorem attestedAround_eq_some {read : Envelope} {first second : System}
    (h : attestedAround = some (read, first, second)) :
    next attestedRuntime sampleSystem (.committed requested) = some first ∧
      findByCode first.envelopes attestedCode = some read ∧
      next attestedRuntime first (.committed signed) = some second := by
  obtain ⟨first', hfirst, h⟩ := Option.bind_eq_some_iff.mp h
  obtain ⟨read', hread, h⟩ := Option.bind_eq_some_iff.mp h
  obtain ⟨second', hsecond, heq⟩ := Option.map_eq_some_iff.mp h
  cases heq
  exact ⟨hfirst, hread, hsecond⟩

/-- With the signers as they are after the signature, the envelope as it was before it looks
altered. -/
theorem exists_attestedAround : ∃ read first second,
    attestedAround = some (read, first, second) ∧
      integrity attestedRuntime read (signersOf second.envelopes read.id) none = .altered := by
  obtain ⟨⟨read, first, second⟩, haround, haltered⟩ :=
    (Option.any_eq_true (fun around : Envelope × System × System =>
      decide (integrity attestedRuntime around.1 (signersOf around.2.2.envelopes around.1.id) none =
        .altered)) attestedAround).mp (by decide +kernel)
  exact ⟨read, first, second, haround, of_decide_eq_true haltered⟩

theorem attestation_is_right_signed : ∃ read first second,
    attestedAround = some (read, first, second) ∧
      (attestation attestedRuntime read .pendingSignature (signersOf first.envelopes read.id)
        (second.storage.get? (read.currentPdfDriver, read.currentPdfKey))
        (sampleNoon 2)).integrity ≠ .altered := by
  obtain ⟨read, first, second, haround, -⟩ := exists_attestedAround
  obtain ⟨hfirst, hread, hsecond⟩ := attestedAround_eq_some haround
  have hbefore : KeepingStep attestedRuntime sampleSystem first :=
    ⟨.committed requested, hfirst, samplePromised, trivial⟩
  have hafter : BeforeFile attestedRuntime read first second :=
    ⟨.committed signed, hsecond, trivial, trivial, trivial⟩
  exact ⟨read, first, second, haround,
    (attestation_is_right attestedRuntime).2 sampleSystem first first second attestedCode read _ _ _
      attestedRuntime_sha256 rfl (.single hbefore) hread .refl (.single hafter) (.inr rfl)⟩

/-- The signature is committed between the first read and the second. -/
theorem attestation_raises_alarm :
    ¬∀ (runtime : Runtime) (start first second third : System) (code : String) (read : Envelope)
      (document : DocumentStatus) (content : Option Content) (now : Instant),
      (∀ content, runtime.sha256 content ≠ "") → start.envelopes = [] →
      Relation.ReflTransGen (CommittedStep runtime) start first →
      findByCode first.envelopes code = some read →
      Relation.ReflTransGen (CommittedStep runtime) first second →
      Relation.ReflTransGen (CommittedStep runtime) second third →
      Fetched third.storage read content →
      (attestation runtime read document (signersOf second.envelopes read.id) content
        now).integrity ≠ .altered := by
  intro hclaim
  obtain ⟨read, first, second, haround, haltered⟩ := exists_attestedAround
  obtain ⟨hfirst, hread, hsecond⟩ := attestedAround_eq_some haround
  exact hclaim attestedRuntime sampleSystem first second second attestedCode read .pendingSignature
    none (sampleNoon 2) attestedRuntime_sha256 rfl (.single ⟨requested, hfirst, samplePromised⟩) hread
    (.single ⟨signed, hsecond, trivial⟩) .refl (.inl rfl) haltered

end Samples

end InternalControl.Attestations
