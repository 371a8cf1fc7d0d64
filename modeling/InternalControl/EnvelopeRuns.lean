import InternalControl.Fallible
import InternalControl.SignatureEnvelope
import Mathlib.Logic.Relation

/-!
# Runs of the signature provider

The slots, the status and the hash chain of an envelope agree in every committed
state of a run, and the current document is stored under its key, unless a
reissue is rolled back after it overwrote that document.
-/

namespace InternalControl.SignatureEnvelope

open Fallible StorageKeys

/-- Signatures that follow each other from the hash of a document to the current one. -/
def HashChain : String → List SignerRow → String → Prop
  | expected, [], current => expected = current
  | expected, signer :: rest, current =>
    signer.pdfSha256Before = some expected ∧
      ∃ after, signer.pdfSha256After = some after ∧ HashChain after rest current

/-- The current document is stored, with the current hash. -/
def Stored (runtime : Runtime) (storage : Storage) (envelope : Envelope) : Prop :=
  ∃ content, storage.get? (envelope.currentPdfDriver, envelope.currentPdfKey) = some content ∧
    runtime.sha256 content = envelope.currentPdfSha256

/-- The slots, the status, the hashes and the files of an envelope agree. -/
structure Whole (runtime : Runtime) (storage : Storage) (envelope : Envelope) : Prop where
  /-- The signed slots come first in the signing order. -/
  signedFirst : (envelope.signers.filter fun signer => signer.status = .signed) <+:
    envelope.signers
  /-- A rejected slot is the first that is not signed. -/
  rejectedNext : ∀ signer ∈ envelope.signers, signer.status = .rejected →
    envelope.signers.find? (fun other => other.status ≠ .signed) = some signer
  completed : envelope.status = .completed ↔
    ∀ signer ∈ envelope.signers, signer.status = .signed
  chain : HashChain envelope.preparedPdfSha256
    (envelope.signers.filter fun signer => signer.status = .signed) envelope.currentPdfSha256
  stored : Stored runtime storage envelope

/-- The slots that are not signed, as the status of the envelope says. -/
def Waiting : EnvelopeStatus → List SignerRow → Prop
  | .completed, rest => rest = []
  | .rejected, rest => ∃ refused later, rest = refused :: later ∧ refused.status = .rejected ∧
      ∀ signer ∈ later, signer.status = .pending
  | _, rest => rest ≠ [] ∧ ∀ signer ∈ rest, signer.status = .pending

/-- The file that holds the current document: the last stamped one, or a prepared one. -/
def HoldsCurrent (done : List SignerRow) (file : SignatureFile) : Prop :=
  match done.getLast? with
  | none => ∃ suffix, file = .prepared suffix
  | some last => file = .stamped last.signOrder

/-- The envelope's slots are the signed ones and the rest. -/
structure Progress (envelope : Envelope) (done rest : List SignerRow) : Prop where
  slots : envelope.signers = done ++ rest
  signed : ∀ signer ∈ done, signer.status = .signed
  waiting : Waiting envelope.status rest
  chain : HashChain envelope.preparedPdfSha256 done envelope.currentPdfSha256
  file : ∃ file, file.Proper ∧ IsKeyOf envelope.verificationCode file envelope.currentPdfKey ∧
    HoldsCurrent done file

/-- What every step keeps of an envelope. -/
structure Valid (runtime : Runtime) (storage : Storage) (envelope : Envelope) : Prop where
  positive : ∀ signer ∈ envelope.signers, 1 ≤ signer.signOrder
  ordered : (envelope.signers.map SignerRow.signOrder).Pairwise (· < ·)
  progress : ∃ done rest, Progress envelope done rest
  stored : Stored runtime storage envelope

/-- What every step keeps of the system. -/
structure Invariant (runtime : Runtime) (system : System) : Prop where
  ids : (system.envelopes.map Envelope.id).Nodup
  codes : (system.envelopes.map Envelope.verificationCode).Nodup
  envelopes : ∀ envelope ∈ system.envelopes, Valid runtime system.storage envelope

/-- Each envelope is still there, with every slot that was signed as it was. -/
def SignedKept (before after : List Envelope) : Prop :=
  ∀ envelope ∈ before, ∃ later ∈ after, later.id = envelope.id ∧
    ∀ signer ∈ envelope.signers, signer.status = .signed → signer ∈ later.signers

/-! ### The slots -/

theorem HashChain.concat {start before after : String} {done : List SignerRow}
    (h : HashChain start done before) {signer : SignerRow}
    (hbefore : signer.pdfSha256Before = some before)
    (hafter : signer.pdfSha256After = some after) : HashChain start (done ++ [signer]) after := by
  induction done generalizing start with
  | nil =>
    cases h
    exact ⟨hbefore, after, hafter, rfl⟩
  | cons first rest ih =>
    obtain ⟨hfirst, next, hnext, hrest⟩ := h
    exact ⟨hfirst, next, hnext, ih hrest⟩

theorem Waiting.not_signed {status : EnvelopeStatus} {rest : List SignerRow}
    (h : Waiting status rest) : ∀ signer ∈ rest, signer.status ≠ .signed := by
  intro signer hsigner hsigned
  cases status with
  | completed => rw [show rest = [] from h] at hsigner; cases hsigner
  | rejected =>
    obtain ⟨refused, later, rfl, hrefused, hlater⟩ := h
    rcases List.mem_cons.mp hsigner with rfl | hsigner
    · rw [hsigned] at hrefused
      cases hrefused
    · rw [hlater signer hsigner] at hsigned
      cases hsigned
  | pending =>
    rw [h.2 signer hsigner] at hsigned
    cases hsigned
  | voided =>
    rw [h.2 signer hsigner] at hsigned
    cases hsigned

section Slots

variable {envelope : Envelope} {done rest : List SignerRow}

theorem Progress.filter_signed (h : Progress envelope done rest) :
    (envelope.signers.filter fun signer => signer.status = .signed) = done := by
  rw [h.slots, List.filter_append]
  have hdone : (done.filter fun signer => signer.status = .signed) = done :=
    List.filter_eq_self.mpr fun signer hsigner => by simpa using h.signed signer hsigner
  have hrest : (rest.filter fun signer => signer.status = .signed) = [] :=
    List.filter_eq_nil_iff.mpr fun signer hsigner => by
      simpa using h.waiting.not_signed signer hsigner
  rw [hdone, hrest, List.append_nil]

/-- The first slots that are not signed are the rest. -/
theorem Progress.find?_eq (h : Progress envelope done rest) {p : SignerRow → Bool}
    (hp : ∀ signer : SignerRow, signer.status = .signed → p signer = false) :
    envelope.signers.find? p = rest.find? p := by
  rw [h.slots, List.find?_append, List.find?_eq_none.mpr, Option.none_or]
  intro signer hsigner
  simp [hp signer (h.signed signer hsigner)]

/-- An envelope that every step kept is whole. -/
theorem Valid.whole {runtime : Runtime} {storage : Storage} (h : Valid runtime storage envelope) :
    Whole runtime storage envelope := by
  obtain ⟨done, rest, hprogress⟩ := h.progress
  have hmem : ∀ signer ∈ envelope.signers, signer.status ≠ .signed → signer ∈ rest := by
    intro signer hsigner hstatus
    rw [hprogress.slots, List.mem_append] at hsigner
    exact hsigner.resolve_left fun hdone => hstatus (hprogress.signed signer hdone)
  refine ⟨?_, fun signer hsigner hrejected => ?_, ?_, ?_, h.stored⟩
  · rw [hprogress.filter_signed, hprogress.slots]
    exact List.prefix_append done rest
  · have hrest := hmem signer hsigner (by simp [hrejected])
    rw [hprogress.find?_eq (by simp)]
    have hwaiting := hprogress.waiting
    cases hstatus : envelope.status with
    | completed =>
      rw [hstatus] at hwaiting
      rw [show rest = [] from hwaiting] at hrest
      cases hrest
    | rejected =>
      rw [hstatus] at hwaiting
      obtain ⟨refused, later, rfl, hrefused, hlater⟩ := hwaiting
      rcases List.mem_cons.mp hrest with rfl | hlate
      · simp [hrejected]
      · rw [hlater signer hlate] at hrejected
        cases hrejected
    | pending =>
      rw [hstatus] at hwaiting
      rw [hwaiting.2 signer hrest] at hrejected
      cases hrejected
    | voided =>
      rw [hstatus] at hwaiting
      rw [hwaiting.2 signer hrest] at hrejected
      cases hrejected
  · have hsigned : (∀ signer ∈ envelope.signers, signer.status = .signed) ↔ rest = [] := by
      constructor
      · intro hall
        rw [List.eq_nil_iff_forall_not_mem]
        intro signer hsigner
        refine hprogress.waiting.not_signed signer hsigner (hall signer ?_)
        rw [hprogress.slots]
        exact List.mem_append_right _ hsigner
      · intro hnil signer hsigner
        by_contra hstatus
        have hrest := hmem signer hsigner hstatus
        rw [hnil] at hrest
        cases hrest
    rw [hsigned]
    have hwaiting := hprogress.waiting
    cases hstatus : envelope.status with
    | completed =>
      rw [hstatus] at hwaiting
      exact iff_of_true rfl hwaiting
    | rejected =>
      rw [hstatus] at hwaiting
      obtain ⟨refused, later, rfl, -⟩ := hwaiting
      exact iff_of_false (by simp) (by simp)
    | pending =>
      rw [hstatus] at hwaiting
      exact iff_of_false (by simp) hwaiting.1
    | voided =>
      rw [hstatus] at hwaiting
      exact iff_of_false (by simp) hwaiting.1
  · rw [hprogress.filter_signed]
    exact hprogress.chain

end Slots

/-! ### The files -/

section Files

variable {runtime : Runtime} {storage : Storage} {envelope : Envelope}

/-- The file does not put other bytes under the key of the current document. -/
def Harmless (runtime : Runtime) (envelope : Envelope) (file : PutObject) : Prop :=
  (file.driver, file.key) = (envelope.currentPdfDriver, envelope.currentPdfKey) →
    runtime.sha256 file.body = envelope.currentPdfSha256

theorem Stored.put (h : Stored runtime storage envelope) {file : PutObject}
    (hharmless : Harmless runtime envelope file) : Stored runtime (storage.put file) envelope := by
  obtain ⟨content, hcontent, hhash⟩ := h
  by_cases hkey : (envelope.currentPdfDriver, envelope.currentPdfKey) = (file.driver, file.key)
  · refine ⟨file.body, ?_, hharmless hkey.symm⟩
    rw [Storage.put, hkey, KeyedMap.get?_set_self]
  · refine ⟨content, ?_, hhash⟩
    rw [Storage.put, KeyedMap.get?_set_of_ne _ _ hkey, hcontent]

theorem Stored.putAll (h : Stored runtime storage envelope) {files : List PutObject}
    (hharmless : ∀ file ∈ files, Harmless runtime envelope file) :
    Stored runtime (storage.putAll files) envelope := by
  induction files generalizing storage with
  | nil => exact h
  | cons file rest ih =>
    exact ih (h.put (hharmless file List.mem_cons_self)) fun other hother =>
      hharmless other (List.mem_cons_of_mem _ hother)

/-- The file is one of the envelope with the verification code. -/
def FileOf (verificationCode : String) (file : PutObject) : Prop :=
  ∃ kind : SignatureFile, kind.Proper ∧ IsKeyOf verificationCode kind file.key

/-- The files of an envelope do no harm to the others. -/
theorem Valid.harmless_of_ne (h : Valid runtime storage envelope) {code : String}
    (hcode : envelope.verificationCode ≠ code) {file : PutObject} (hfile : FileOf code file) :
    Harmless runtime envelope file := by
  intro hsame
  obtain ⟨kind, hproper, hkey⟩ := hfile
  obtain ⟨done, rest, hprogress⟩ := h.progress
  obtain ⟨current, hcurrent, hcurrentKey, -⟩ := hprogress.file
  rw [(Prod.mk.inj hsame).2] at hkey
  exact absurd (hcurrentKey.inj hkey hcurrent hproper).1 hcode

theorem Valid.putAll (h : Valid runtime storage envelope) {files : List PutObject}
    (hharmless : ∀ file ∈ files, Harmless runtime envelope file) :
    Valid runtime (storage.putAll files) envelope :=
  ⟨h.positive, h.ordered, h.progress, h.stored.putAll hharmless⟩

end Files

/-! ### The system -/

section System

variable {runtime : Runtime} {system : System} {target : Envelope}

/-- Envelopes with the same code are the same. -/
theorem Invariant.eq_of_code (h : Invariant runtime system) (htarget : target ∈ system.envelopes)
    {envelope : Envelope} (henvelope : envelope ∈ system.envelopes)
    (hcode : envelope.verificationCode = target.verificationCode) : envelope = target :=
  List.inj_on_of_nodup_map h.codes henvelope htarget hcode

theorem Invariant.eq_of_id (h : Invariant runtime system) (htarget : target ∈ system.envelopes)
    {envelope : Envelope} (henvelope : envelope ∈ system.envelopes)
    (hid : envelope.id = target.id) : envelope = target :=
  List.inj_on_of_nodup_map h.ids henvelope htarget hid

/-- Files of an envelope that do it no harm keep the invariant. -/
theorem Invariant.putAll (h : Invariant runtime system) (htarget : target ∈ system.envelopes)
    {files : List PutObject} (hfiles : ∀ file ∈ files, FileOf target.verificationCode file)
    (hharmless : ∀ file ∈ files, Harmless runtime target file) :
    Invariant runtime { system with storage := system.storage.putAll files } where
  ids := h.ids
  codes := h.codes
  envelopes envelope henvelope := by
    refine (h.envelopes envelope henvelope).putAll fun file hfile => ?_
    by_cases hcode : envelope.verificationCode = target.verificationCode
    · rw [h.eq_of_code htarget henvelope hcode]
      exact hharmless file hfile
    · exact (h.envelopes envelope henvelope).harmless_of_ne hcode (hfiles file hfile)

/-- Files of an envelope to come keep the invariant. -/
theorem Invariant.putAll_new (h : Invariant runtime system) {code : String}
    (hcode : ∀ envelope ∈ system.envelopes, envelope.verificationCode ≠ code)
    {files : List PutObject} (hfiles : ∀ file ∈ files, FileOf code file) :
    Invariant runtime { system with storage := system.storage.putAll files } where
  ids := h.ids
  codes := h.codes
  envelopes envelope henvelope := (h.envelopes envelope henvelope).putAll fun file hfile =>
    (h.envelopes envelope henvelope).harmless_of_ne (hcode envelope henvelope) (hfiles file hfile)

theorem updateEnvelope_map {γ : Type} {f : Envelope → γ} {change : Envelope → Envelope}
    (hf : ∀ row, f (change row) = f row) (envelopes : List Envelope) (id : String) :
    (updateEnvelope envelopes id change).map f = envelopes.map f := by
  rw [updateEnvelope, List.map_map]
  refine List.map_congr_left fun row _ => ?_
  rw [Function.comp_apply]
  split
  · exact hf row
  · rfl

/-- A change of one envelope, with files of it, keeps the invariant when the
changed envelope is valid. -/
theorem Invariant.update (h : Invariant runtime system) (htarget : target ∈ system.envelopes)
    (files : List PutObject) (hfiles : ∀ file ∈ files, FileOf target.verificationCode file)
    {change : Envelope → Envelope} (hid : ∀ row, (change row).id = row.id)
    (hcode : ∀ row, (change row).verificationCode = row.verificationCode)
    (hvalid : Valid runtime (system.storage.putAll files) (change target))
    (hkept : ∀ signer ∈ target.signers, signer.status = .signed →
      signer ∈ (change target).signers) :
    Invariant runtime { system with
      storage := system.storage.putAll files
      envelopes := updateEnvelope system.envelopes target.id change } ∧
    SignedKept system.envelopes (updateEnvelope system.envelopes target.id change) := by
  refine ⟨⟨?_, ?_, fun envelope henvelope => ?_⟩, fun envelope henvelope => ?_⟩
  · rw [updateEnvelope_map hid]
    exact h.ids
  · rw [updateEnvelope_map hcode]
    exact h.codes
  · obtain ⟨row, hrow, rfl⟩ := List.mem_map.mp henvelope
    split
    · next hsame =>
      rw [h.eq_of_id htarget hrow hsame]
      exact hvalid
    · next hother =>
      refine (h.envelopes row hrow).putAll fun file hfile =>
        (h.envelopes row hrow).harmless_of_ne (fun he => hother ?_) (hfiles file hfile)
      rw [h.eq_of_code htarget hrow he]
  · refine ⟨_, List.mem_map_of_mem henvelope, ?_⟩
    split
    · next hsame =>
      refine ⟨hid envelope, ?_⟩
      rw [h.eq_of_id htarget henvelope hsame]
      exact hkept
    · exact ⟨rfl, fun signer hsigner _ => hsigner⟩

end System

/-- The attempt keeps the invariant, committed or rolled back after any of its
puts, and a commit keeps the signed slots. -/
structure Keeps (runtime : Runtime) (system : System) (attempt : Attempt) : Prop where
  rolledBack : ∀ puts, Invariant runtime
    { system with storage := system.storage.putAll (attempt.puts.take puts) }
  committed : ∀ envelopes, attempt.outcome = .ok envelopes →
    Invariant runtime
      { system with storage := system.storage.putAll attempt.puts, envelopes := envelopes } ∧
    SignedKept system.envelopes envelopes

theorem Invariant.keeps_refused {runtime : Runtime} {system : System} (h : Invariant runtime system)
    (error : ApiException) : Keeps runtime system (refused error) :=
  ⟨fun puts => by
    rw [refused, List.take_nil]
    exact h, fun envelopes he => by cases he⟩

/-- A rolled back attempt keeps the invariant when its files do its envelope no harm. -/
theorem Invariant.keepsRolledBack {runtime : Runtime} {system : System}
    (h : Invariant runtime system) {target : Envelope} (htarget : target ∈ system.envelopes)
    {files : List PutObject} (hfiles : ∀ file ∈ files, FileOf target.verificationCode file)
    (hharmless : ∀ file ∈ files, Harmless runtime target file) (puts : ℕ) :
    Invariant runtime { system with storage := system.storage.putAll (files.take puts) } :=
  h.putAll htarget (fun file hfile => hfiles file (List.mem_of_mem_take hfile))
    fun file hfile => hharmless file (List.mem_of_mem_take hfile)

/-! ### What a call reads -/

section Reads

variable {target : Envelope}

theorem envelope_eq_ok {envelopes : List Envelope} {reference : String}
    (h : envelope envelopes reference = .ok target) :
    target ∈ envelopes ∧ target.id = reference := by
  unfold envelope at h
  split at h
  · next found hfound =>
    cases h
    exact ⟨List.mem_of_find?_eq_some hfound, by simpa using List.find?_some hfound⟩
  · cases h

theorem validKey_eq_ok {key : Option String} {result : String} (h : validKey key = .ok result) :
    key = some result := by
  unfold validKey at h
  split at h
  · cases h
    rfl
  · cases h

/-- The next signer is the first pending one, of a pending envelope. -/
theorem nextSigner_eq_ok {order : ℕ} {personId : String} {signer : SignerRow}
    (h : nextSigner target order personId = .ok signer) :
    target.status = .pending ∧ signer ∈ target.signers ∧ signer.signOrder = order ∧
      ∃ first, target.signers.find? (fun item => item.status = .pending) = some first ∧
        first.signOrder = order := by
  unfold nextSigner at h
  split_ifs at h with hstatus
  split at h
  · cases h
  · next found hfound =>
    split_ifs at h with hpending
    split at h
    · cases h
    · next designated hdesignated =>
      split_ifs at h with hperson
      split at h
      · cases h
      · next first hfirst =>
        split_ifs at h with horder
        cases h
        exact ⟨not_not.mp hstatus, List.mem_of_find?_eq_some hfound,
          by simpa using List.find?_some hfound, first, hfirst, not_not.mp horder⟩

end Reads

/-! ### The next signer -/

section NextSigner

variable {runtime : Runtime} {storage : Storage} {target : Envelope}

theorem Valid.nodup_orders (h : Valid runtime storage target) :
    (target.signers.map SignerRow.signOrder).Nodup :=
  h.ordered.imp fun hlt => hlt.ne

/-- The next signer stands right after the signed slots. -/
theorem Valid.progress_of_nextSigner (h : Valid runtime storage target) {order : ℕ}
    {personId : String} {signer : SignerRow}
    (hnext : nextSigner target order personId = .ok signer) :
    target.status = .pending ∧ signer.signOrder = order ∧
      ∃ done later, Progress target done (signer :: later) := by
  obtain ⟨hstatus, hsigner, horder, first, hfirst, hfirstOrder⟩ := nextSigner_eq_ok hnext
  obtain ⟨done, rest, hprogress⟩ := h.progress
  refine ⟨hstatus, horder, done, ?_⟩
  have hwaiting := hprogress.waiting
  rw [hstatus] at hwaiting
  obtain ⟨hne, hpending⟩ := hwaiting
  obtain ⟨head, later, rfl⟩ := List.exists_cons_of_ne_nil hne
  -- the first pending slot is the head of the rest, and its order is the signer's
  rw [hprogress.find?_eq (by simp +contextual), List.find?_cons_of_pos
    (by simpa using hpending head List.mem_cons_self)] at hfirst
  obtain rfl : head = first := Option.some.inj hfirst
  have hhead : head ∈ target.signers := by
    rw [hprogress.slots]
    simp
  have hsame : signer = head := List.inj_on_of_nodup_map h.nodup_orders hsigner hhead
    (horder.trans hfirstOrder.symm)
  exact ⟨later, hsame ▸ hprogress⟩

/-- Only the slot of the order changes. -/
theorem updateSigner_of_slots {done later : List SignerRow} {signer : SignerRow}
    (hnodup : ((done ++ signer :: later).map SignerRow.signOrder).Nodup)
    (change : SignerRow → SignerRow) :
    updateSigner (done ++ signer :: later) signer.signOrder change =
      done ++ change signer :: later := by
  have hother : ∀ other ∈ done ++ later, other.signOrder ≠ signer.signOrder := by
    intro other hother hsame
    rw [List.map_append, List.map_cons, List.nodup_middle, List.nodup_cons] at hnodup
    refine hnodup.1 ?_
    rw [← hsame, ← List.map_append]
    exact List.mem_map_of_mem hother
  have hkeep : ∀ others : List SignerRow, (∀ other ∈ others, other ∈ done ++ later) →
      (others.map fun other => if other.signOrder = signer.signOrder then change other
        else other) = others := by
    intro others hsub
    conv_rhs => rw [← List.map_id others]
    exact List.map_congr_left fun other hmem => if_neg (hother other (hsub other hmem))
  rw [updateSigner, List.map_append, List.map_cons, if_pos rfl,
    hkeep done fun other hmem => List.mem_append_left _ hmem,
    hkeep later fun other hmem => List.mem_append_right _ hmem]

/-- A change of the next slot that keeps its order keeps the orders. -/
theorem orders_of_slots {done later : List SignerRow} {signer changed : SignerRow}
    (horder : changed.signOrder = signer.signOrder) :
    (done ++ changed :: later).map SignerRow.signOrder =
      (done ++ signer :: later).map SignerRow.signOrder := by
  simp [horder]

/-- An envelope stays valid when its next slot changes. -/
theorem Valid.of_slots {storage' : Storage} (h : Valid runtime storage target)
    {changed : Envelope} {done later done' rest' : List SignerRow} {signer row : SignerRow}
    (hprogress : Progress target done (signer :: later))
    (hslots : changed.signers = done ++ row :: later) (horder : row.signOrder = signer.signOrder)
    (hchanged : Progress changed done' rest') (hstored : Stored runtime storage' changed) :
    Valid runtime storage' changed := by
  have horders : changed.signers.map SignerRow.signOrder =
      target.signers.map SignerRow.signOrder := by
    rw [hslots, hprogress.slots, orders_of_slots horder]
  refine ⟨fun other hother => ?_, horders ▸ h.ordered, ⟨done', rest', hchanged⟩, hstored⟩
  have hmem : other.signOrder ∈ target.signers.map SignerRow.signOrder := by
    rw [← horders]
    exact List.mem_map_of_mem hother
  obtain ⟨old, hold, hsame⟩ := List.mem_map.mp hmem
  rw [← hsame]
  exact h.positive old hold

/-- A signed slot stays when the next one changes. -/
theorem Valid.mem_updateSigner (h : Valid runtime storage target) {order : ℕ} {personId : String}
    {signer other : SignerRow} (hnext : nextSigner target order personId = .ok signer)
    (hother : other ∈ target.signers) (hsigned : other.status = .signed)
    (change : SignerRow → SignerRow) : other ∈ updateSigner target.signers order change := by
  obtain ⟨-, horder, done, later, hprogress⟩ := h.progress_of_nextSigner hnext
  refine List.mem_map.mpr ⟨other, hother, if_neg fun hsame => ?_⟩
  have hmem : signer ∈ target.signers := by
    rw [hprogress.slots]
    simp
  have heq : other = signer :=
    List.inj_on_of_nodup_map h.nodup_orders hother hmem (hsame.trans horder.symm)
  exact hprogress.waiting.not_signed signer List.mem_cons_self (heq ▸ hsigned)

end NextSigner

/-! ### Signing -/

section Capture

variable {runtime : Runtime} {system : System} {target : Envelope} {input : SignatureCapture}
  {signer : SignerRow}

/-- The slots still to be signed after the next one are the ones after it. -/
theorem Valid.pending_eq {storage : Storage} (h : Valid runtime storage target)
    {done later : List SignerRow} (hprogress : Progress target done (signer :: later))
    (horder : signer.signOrder = input.order) :
    (target.signers.filter fun item =>
      item.status ≠ .signed && item.signOrder ≠ input.order) = later := by
  have hnodup := h.nodup_orders
  rw [hprogress.slots, List.map_append, List.map_cons, List.nodup_middle, List.nodup_cons,
    ← List.map_append] at hnodup
  have hdone : (done.filter fun item =>
      item.status ≠ .signed && item.signOrder ≠ input.order) = [] :=
    List.filter_eq_nil_iff.mpr fun item hitem => by simp [hprogress.signed item hitem]
  have hlater : (later.filter fun item =>
      item.status ≠ .signed && item.signOrder ≠ input.order) = later := by
    refine List.filter_eq_self.mpr fun item hitem => ?_
    have hstatus := hprogress.waiting.not_signed item (List.mem_cons_of_mem _ hitem)
    have hother : item.signOrder ≠ input.order := fun he => hnodup.1
      (horder ▸ he ▸ List.mem_map_of_mem (List.mem_append_right _ hitem))
    simp [hstatus, hother]
  rw [hprogress.slots, List.filter_append, hdone, List.filter_cons_of_neg (by simp [horder]),
    hlater, List.nil_append]

/-- A signed envelope is valid, with the document it was stamped on. -/
theorem Valid.signed (h : Valid runtime system.storage target)
    (hnext : nextSigner target input.order input.signerPersonId = .ok signer) {now : Instant}
    {rubric : StoredRubric} {stored : PutObject}
    (hkey : IsKeyOf target.verificationCode (.stamped input.order) stored.key)
    (files : List PutObject) :
    Valid runtime (system.storage.putAll (files ++ [stored]))
      (signedEnvelope input now rubric stored target.currentPdfSha256
        (runtime.sha256 stored.body)
        (target.signers.filter fun item =>
          item.status ≠ .signed && item.signOrder ≠ input.order).length target) := by
  obtain ⟨hstatus, horder, done, later, hprogress⟩ := h.progress_of_nextSigner hnext
  have hnodup := h.nodup_orders
  rw [hprogress.slots] at hnodup
  rw [h.pending_eq hprogress horder]
  let row := signedRow input now rubric target.currentPdfSha256 (runtime.sha256 stored.body) signer
  have hslots : updateSigner target.signers input.order (signedRow input now rubric
      target.currentPdfSha256 (runtime.sha256 stored.body)) = done ++ row :: later := by
    rw [hprogress.slots, ← horder, updateSigner_of_slots hnodup]
  have hmem : signer ∈ target.signers := by
    rw [hprogress.slots]
    simp
  have hchanged : Progress (signedEnvelope input now rubric stored target.currentPdfSha256
      (runtime.sha256 stored.body) later.length target) (done ++ [row]) later := by
    refine ⟨hslots.trans (List.append_cons done row later), ?_, ?_, hprogress.chain.concat rfl rfl,
      .stamped input.order, horder ▸ h.positive signer hmem, hkey, ?_⟩
    · intro other hother
      rcases List.mem_append.mp hother with hdone | hlast
      · exact hprogress.signed other hdone
      · rw [List.mem_singleton.mp hlast]
        rfl
    · have hwaiting := hprogress.waiting
      rw [hstatus] at hwaiting
      by_cases hlater : later = []
      · simp [signedEnvelope, hlater, Waiting]
      · have hlength : later.length ≠ 0 := fun he => hlater (List.length_eq_zero_iff.mp he)
        simp only [signedEnvelope, if_neg hlength, hstatus]
        exact ⟨hlater, fun other hother => hwaiting.2 other (List.mem_cons_of_mem _ hother)⟩
    · simp [HoldsCurrent, row, signedRow, horder]
  refine h.of_slots hprogress hslots rfl hchanged ⟨stored.body, ?_, rfl⟩
  rw [Storage.putAll, List.foldl_append]
  exact KeyedMap.get?_set_self _ _ _

/-- The rubric and the stamped document of the next signer are not the current document. -/
theorem Valid.harmless_of_nextSigner (h : Valid runtime system.storage target)
    (hnext : nextSigner target input.order input.signerPersonId = .ok signer)
    {kind : SignatureFile} (hkind : kind = .rubric input.order ∨ kind = .stamped input.order)
    {file : PutObject} (hkey : IsKeyOf target.verificationCode kind file.key) :
    FileOf target.verificationCode file ∧ Harmless runtime target file := by
  obtain ⟨-, horder, done, later, hprogress⟩ := h.progress_of_nextSigner hnext
  have hmem : signer ∈ target.signers := by
    rw [hprogress.slots]
    simp
  have hproper : kind.Proper := by
    rcases hkind with rfl | rfl
    · trivial
    · exact horder ▸ h.positive signer hmem
  refine ⟨⟨kind, hproper, hkey⟩, fun hsame => ?_⟩
  obtain ⟨current, hcurrent, hcurrentKey, hholds⟩ := hprogress.file
  rw [(Prod.mk.inj hsame).2] at hkey
  obtain ⟨-, hfile⟩ := hcurrentKey.inj hkey hcurrent hproper
  exfalso
  subst hfile
  rw [HoldsCurrent] at hholds
  split at hholds
  · obtain ⟨suffix, hprepared⟩ := hholds
    rcases hkind with rfl | rfl <;> cases hprepared
  · next last hlast =>
    rcases hkind with rfl | rfl
    · cases hholds
    · -- the last signed slot is another one than the next
      have hsame : last.signOrder = signer.signOrder := by
        rw [horder]
        exact (SignatureFile.stamped.inj hholds).symm
      have hdone : last ∈ done := List.mem_of_getLast? hlast
      have hnodup := h.nodup_orders
      rw [hprogress.slots, List.map_append, List.map_cons, List.nodup_append] at hnodup
      exact hnodup.2.2 _ (List.mem_map_of_mem hdone) _ List.mem_cons_self hsame

theorem readForCapture_eq_ok {externalReference : String} {current : Content}
    {keyInput : SignatureKeyInput} {rubricKey : String}
    (h : readForCapture runtime system externalReference input =
      .ok (target, signer, current, keyInput, rubricKey)) :
    target ∈ system.envelopes ∧ target.id = externalReference ∧
      nextSigner target input.order input.signerPersonId = .ok signer ∧
      keyInput.verificationCode = target.verificationCode ∧
      signatureRubricKey runtime.calendarYear keyInput input.order = some rubricKey := by
  unfold readForCapture at h
  obtain ⟨found, hfound, h⟩ := bind_eq_ok h
  obtain ⟨next, hnext, h⟩ := bind_eq_ok h
  obtain ⟨content, -, h⟩ := bind_eq_ok h
  obtain ⟨createdAt, -, h⟩ := bind_eq_ok h
  obtain ⟨key, hkey, h⟩ := bind_eq_ok h
  cases h
  obtain ⟨hmem, hid⟩ := envelope_eq_ok hfound
  exact ⟨hmem, hid, hnext, rfl, validKey_eq_ok hkey⟩

/-- What a signature attempt puts and commits. -/
theorem capture_cases (runtime : Runtime) (system : System) (externalReference : String)
    (input : SignatureCapture) (now : Instant) :
    (∃ error, capture runtime system externalReference input now = refused error) ∨
    ∃ target ∈ system.envelopes, target.id = externalReference ∧ ∃ signer,
      nextSigner target input.order input.signerPersonId = .ok signer ∧
      ∃ rubricKey, IsKeyOf target.verificationCode (.rubric input.order) rubricKey ∧
        ((∃ error, capture runtime system externalReference input now =
          ⟨[⟨system.driver, rubricKey, input.rubricPng⟩], .error error⟩) ∨
        ∃ stored rubric, IsKeyOf target.verificationCode (.stamped input.order) stored.key ∧
          capture runtime system externalReference input now =
            ⟨[⟨system.driver, rubricKey, input.rubricPng⟩, stored],
              .ok (updateEnvelope system.envelopes target.id
                (signedEnvelope input now rubric stored target.currentPdfSha256
                  (runtime.sha256 stored.body)
                  (target.signers.filter fun item =>
                    item.status ≠ .signed && item.signOrder ≠ input.order).length))⟩) := by
  unfold capture
  split_ifs
  · exact Or.inl ⟨_, rfl⟩
  · cases hread : readForCapture runtime system externalReference input with
    | error error => exact Or.inl ⟨error, rfl⟩
    | ok read =>
      obtain ⟨target, signer, current, keyInput, rubricKey⟩ := read
      obtain ⟨htarget, hid, hnext, hcode, hrubric⟩ := readForCapture_eq_ok hread
      refine Or.inr ⟨target, htarget, hid, signer, hnext, rubricKey,
        hcode ▸ isKeyOf_rubric hrubric, ?_⟩
      cases hkey : validKey (signatureStampedPdfKey runtime.calendarYear keyInput input.order) with
      | error error =>
        refine Or.inl ⟨error, ?_⟩
        simp only [hkey]
      | ok stampedKey =>
        have hstamped := isKeyOf_stamped (validKey_eq_ok hkey)
        refine Or.inr ⟨⟨system.driver, stampedKey, runtime.stampSignature current
          (signatureMark target signer input now) now⟩,
          ⟨system.driver, rubricKey, runtime.sha256 input.rubricPng⟩, hcode ▸ hstamped, ?_⟩
        simp only [hkey]

/-- A signature keeps the invariant, committed or rolled back after any of its puts. -/
theorem Invariant.capture (h : Invariant runtime system) (externalReference : String)
    (input : SignatureCapture) (now : Instant) :
    Keeps runtime system (capture runtime system externalReference input now) := by
  rcases capture_cases runtime system externalReference input now with
    ⟨error, hattempt⟩ | ⟨target, htarget, -, signer, hnext, rubricKey, hrubric, hcases⟩
  · rw [hattempt]
    exact h.keeps_refused error
  · have hvalid := h.envelopes target htarget
    have hrubricFile : FileOf target.verificationCode ⟨system.driver, rubricKey, input.rubricPng⟩ ∧
        Harmless runtime target ⟨system.driver, rubricKey, input.rubricPng⟩ :=
      hvalid.harmless_of_nextSigner hnext (Or.inl rfl) hrubric
    rcases hcases with ⟨error, hattempt⟩ | ⟨stored, rubric, hstamped, hattempt⟩
    · rw [hattempt]
      refine ⟨h.keepsRolledBack htarget ?_ ?_, fun envelopes he => by cases he⟩
      · simpa using hrubricFile.1
      · simpa using hrubricFile.2
    · have hstampedFile := hvalid.harmless_of_nextSigner hnext (Or.inr rfl) hstamped
      rw [hattempt]
      have hfiles : ∀ file ∈ [⟨system.driver, rubricKey, input.rubricPng⟩, stored],
          FileOf target.verificationCode file := by
        simpa using ⟨hrubricFile.1, hstampedFile.1⟩
      refine ⟨h.keepsRolledBack htarget hfiles ?_, fun envelopes he => ?_⟩
      · simpa using ⟨hrubricFile.2, hstampedFile.2⟩
      · cases he
        exact h.update htarget _ hfiles (fun _ => rfl) (fun _ => rfl)
          (hvalid.signed hnext hstamped [⟨system.driver, rubricKey, input.rubricPng⟩])
          fun other hother hsigned => hvalid.mem_updateSigner hnext hother hsigned _

end Capture

/-! ### Refusing and closing -/

section Reject

variable {runtime : Runtime} {system : System} {target : Envelope}

/-- A refused envelope is valid. -/
theorem Valid.rejected {storage : Storage} (h : Valid runtime storage target)
    {rejection : SignatureRejection} {signer : SignerRow}
    (hnext : nextSigner target rejection.order rejection.signerPersonId = .ok signer)
    {now : Instant} :
    Valid runtime storage (rejectedEnvelope rejection now target.currentPdfSha256 target) := by
  obtain ⟨hstatus, horder, done, later, hprogress⟩ := h.progress_of_nextSigner hnext
  have hnodup := h.nodup_orders
  rw [hprogress.slots] at hnodup
  have hwaiting := hprogress.waiting
  rw [hstatus] at hwaiting
  have hslots : updateSigner target.signers rejection.order
      (rejectedRow rejection now target.currentPdfSha256) =
        done ++ rejectedRow rejection now target.currentPdfSha256 signer :: later := by
    rw [hprogress.slots, ← horder, updateSigner_of_slots hnodup]
  have hchanged : Progress (rejectedEnvelope rejection now target.currentPdfSha256 target) done
      (rejectedRow rejection now target.currentPdfSha256 signer :: later) :=
    ⟨hslots, hprogress.signed, ⟨_, later, rfl, rfl,
      fun other hother => hwaiting.2 other (List.mem_cons_of_mem _ hother)⟩,
      hprogress.chain, hprogress.file⟩
  exact h.of_slots hprogress hslots rfl hchanged h.stored

/-- A refusal keeps the invariant. -/
theorem Invariant.reject (h : Invariant runtime system) (externalReference : String)
    (rejection : SignatureRejection) (now : Instant) :
    Keeps runtime system (reject system externalReference rejection now) := by
  unfold SignatureEnvelope.reject
  cases henvelope : envelope system.envelopes externalReference with
  | error error => exact h.keeps_refused error
  | ok target =>
    cases hnext : nextSigner target rejection.order rejection.signerPersonId with
    | error error =>
      simp only [hnext]
      exact h.keeps_refused error
    | ok signer =>
      simp only [hnext]
      have htarget := (envelope_eq_ok henvelope).1
      refine ⟨h.keepsRolledBack htarget (by simp) (by simp), fun envelopes he => ?_⟩
      cases he
      exact h.update htarget [] (by simp) (fun _ => rfl) (fun _ => rfl)
        ((h.envelopes target htarget).rejected hnext)
        fun other hother hsigned =>
          (h.envelopes target htarget).mem_updateSigner hnext hother hsigned _

theorem voidedEnvelope_of_pending {row : Envelope} (h : row.status = .pending) :
    voidedEnvelope row = { row with status := .voided } := if_pos h

theorem voidedEnvelope_signers (row : Envelope) : (voidedEnvelope row).signers = row.signers := by
  unfold voidedEnvelope
  split <;> rfl

/-- Closing an envelope changes its status at most. -/
theorem Valid.voided {storage : Storage} (h : Valid runtime storage target) :
    Valid runtime storage (voidedEnvelope target) := by
  by_cases hstatus : target.status = .pending
  · obtain ⟨done, rest, hprogress⟩ := h.progress
    have hwaiting := hprogress.waiting
    rw [hstatus] at hwaiting
    rw [voidedEnvelope_of_pending hstatus]
    exact ⟨h.positive, h.ordered, ⟨done, rest, hprogress.slots, hprogress.signed, hwaiting,
      hprogress.chain, hprogress.file⟩, h.stored⟩
  · rw [voidedEnvelope, if_neg hstatus]
    exact h

/-- Closing an envelope keeps the invariant. -/
theorem Invariant.void (h : Invariant runtime system) (externalReference : String) :
    Keeps runtime system (void system externalReference) := by
  refine ⟨fun puts => ?_, fun envelopes he => ?_⟩
  · rw [SignatureEnvelope.void, List.take_nil]
    exact h
  cases he
  by_cases hfound : ∃ target ∈ system.envelopes, target.id = externalReference
  · obtain ⟨target, htarget, rfl⟩ := hfound
    have hvalid := (h.envelopes target htarget).voided
    have hsame : ∀ row : Envelope, (voidedEnvelope row).id = row.id ∧
        (voidedEnvelope row).verificationCode = row.verificationCode := by
      intro row
      unfold voidedEnvelope
      split <;> exact ⟨rfl, rfl⟩
    refine h.update htarget [] (by simp) (fun row => (hsame row).1) (fun row => (hsame row).2)
      hvalid fun signer hsigner _ => ?_
    rwa [voidedEnvelope_signers]
  · have hnone : updateEnvelope system.envelopes externalReference voidedEnvelope =
        system.envelopes := by
      conv_rhs => rw [← List.map_id system.envelopes]
      exact List.map_congr_left fun row hrow => if_neg fun he => hfound ⟨row, hrow, he⟩
    rw [hnone]
    exact ⟨h, fun envelope henvelope => ⟨envelope, henvelope, rfl, fun _ hsigner _ => hsigner⟩⟩

end Reject

/-! ### Creating and reissuing -/

section Prepared

variable {runtime : Runtime} {system : System} {input : SignatureRequest}

/-- The signers of a request have increasing orders when no order is there twice. -/
theorem ordered_signersInOrder
    (hnodup : (((signersInOrder input).map newSigner).map SignerRow.signOrder).Nodup) :
    (((signersInOrder input).map newSigner).map SignerRow.signOrder).Pairwise (· < ·) := by
  have hsorted : ((signersInOrder input).map SignerRequest.order).Pairwise (· ≤ ·) :=
    List.pairwise_map.mpr (List.pairwise_insertionSort (fun a b : SignerRequest =>
      a.order ≤ b.order) input.signers)
  rw [List.map_map] at hnodup ⊢
  exact (hsorted.and hnodup).imp fun hab => lt_of_le_of_ne hab.1 hab.2

/-- A new envelope is valid. -/
theorem Valid.created {code id : String} (hsigners : input.signers ≠ [])
    (horders : ∀ signer ∈ input.signers, 1 ≤ signer.order)
    (hnodup : (((signersInOrder input).map newSigner).map SignerRow.signOrder).Nodup)
    {stored : PutObject} {suffix : String} (hproper : (SignatureFile.prepared suffix).Proper)
    (hkey : IsKeyOf code (.prepared suffix) stored.key) :
    Valid runtime (system.storage.putAll [stored])
      (newEnvelope runtime input code id stored) where
  positive := by
    intro signer hsigner
    obtain ⟨request, hrequest, rfl⟩ := List.mem_map.mp hsigner
    exact horders request ((List.mem_insertionSort _).mp hrequest)
  ordered := ordered_signersInOrder hnodup
  progress := by
    refine ⟨[], (signersInOrder input).map newSigner, rfl, by simp, ⟨?_, ?_⟩, rfl,
      .prepared suffix, hproper, hkey, suffix, rfl⟩
    · have hlength : (signersInOrder input).length = input.signers.length :=
        List.length_insertionSort _ _
      intro hnil
      rw [List.map_eq_nil_iff] at hnil
      rw [hnil] at hlength
      exact hsigners (List.length_eq_zero_iff.mp hlength.symm)
    · intro signer hsigner
      obtain ⟨request, -, rfl⟩ := List.mem_map.mp hsigner
      rfl
  stored := ⟨stored.body, KeyedMap.get?_set_self _ _ _, rfl⟩

/-- What a request puts and commits. -/
theorem request_cases (runtime : Runtime) (system : System) (input : SignatureRequest)
    (code id : String) (now : Instant) :
    (∃ error, request runtime system input code id now = refused error) ∨
    ∃ stored suffix, (SignatureFile.prepared suffix).Proper ∧
      IsKeyOf code (.prepared suffix) stored.key ∧
      ((∃ error, request runtime system input code id now = ⟨[stored], .error error⟩) ∨
        (((signersInOrder input).map newSigner).map SignerRow.signOrder).Nodup ∧
        request runtime system input code id now = ⟨[stored],
          .ok (system.envelopes ++ [newEnvelope runtime input code id stored])⟩) := by
  unfold request
  split_ifs
  · exact Or.inl ⟨_, rfl⟩
  · cases hkey : validKey (signaturePreparedPdfKey runtime.calendarYear
      ⟨input.documentCreatedAt, input.documentId, code⟩ none) with
    | error error => exact Or.inl ⟨error, rfl⟩
    | ok key =>
      obtain ⟨suffix, hproper, hname⟩ := isKeyOf_prepared (validKey_eq_ok hkey)
      refine Or.inr ⟨⟨system.driver, key, preparedDocument runtime input code now⟩, suffix,
        hproper, hname, ?_⟩
      simp only
      split_ifs with hnodup
      · exact Or.inr ⟨hnodup, rfl⟩
      · exact Or.inl ⟨_, rfl⟩

/-- A request keeps the invariant. -/
theorem Invariant.request (h : Invariant runtime system) {code id : String} {now : Instant}
    (hpromised : PromisedCall system (.request input code id now)) :
    Keeps runtime system (request runtime system input code id now) := by
  obtain ⟨hfresh, hsigners, horders⟩ := hpromised
  have hcode : ∀ envelope ∈ system.envelopes, envelope.verificationCode ≠ code :=
    fun envelope henvelope => (hfresh envelope henvelope).2
  rcases request_cases runtime system input code id now with
    ⟨error, hattempt⟩ | ⟨stored, suffix, hproper, hkey, hcases⟩
  · rw [hattempt]
    exact h.keeps_refused error
  · have hfile : ∀ file ∈ [stored], FileOf code file := by
      simpa using ⟨_, hproper, hkey⟩
    have hrolledBack : ∀ puts, Invariant runtime
        { system with storage := system.storage.putAll ([stored].take puts) } := fun puts =>
      h.putAll_new hcode fun file hmem => hfile file (List.mem_of_mem_take hmem)
    rcases hcases with ⟨error, hattempt⟩ | ⟨hnodup, hattempt⟩
    · rw [hattempt]
      exact ⟨hrolledBack, fun envelopes he => by cases he⟩
    · rw [hattempt]
      refine ⟨hrolledBack, fun envelopes he => ?_⟩
      cases he
      refine ⟨⟨?_, ?_, ?_⟩, fun envelope henvelope => ⟨envelope,
        List.mem_append_left _ henvelope, rfl, fun _ hsigner _ => hsigner⟩⟩
      · rw [List.map_append, List.nodup_append]
        refine ⟨h.ids, by simp, ?_⟩
        rintro _ hold _ hnew rfl
        obtain ⟨envelope, henvelope, hid⟩ := List.mem_map.mp hold
        exact (hfresh envelope henvelope).1 (hid.trans (List.mem_singleton.mp hnew))
      · rw [List.map_append, List.nodup_append]
        refine ⟨h.codes, by simp, ?_⟩
        rintro _ hold _ hnew rfl
        obtain ⟨envelope, henvelope, hsame⟩ := List.mem_map.mp hold
        exact hcode envelope henvelope (hsame.trans (List.mem_singleton.mp hnew))
      · intro envelope henvelope
        rcases List.mem_append.mp henvelope with hold | hnew
        · exact (h.putAll_new hcode hfile).envelopes envelope hold
        · rw [List.mem_singleton.mp hnew]
          exact Valid.created hsigners horders hnodup hproper hkey

/-- Reassigning keeps the order and the status of every slot. -/
theorem reassigned_eq_map (requests : List SignerRequest) (signers : List SignerRow) :
    ∃ change : SignerRow → SignerRow, reassigned requests signers = signers.map change ∧
      ∀ signer, (change signer).signOrder = signer.signOrder ∧
        (change signer).status = signer.status := by
  induction requests generalizing signers with
  | nil => exact ⟨id, by simp [reassigned], fun _ => ⟨rfl, rfl⟩⟩
  | cons request rest ih =>
    obtain ⟨change, hchange, hsame⟩ :=
      ih (updateSigner signers request.order (reassignedRow request))
    refine ⟨fun signer => change (if signer.signOrder = request.order then
      reassignedRow request signer else signer), ?_, fun signer => ?_⟩
    · rw [reassigned, List.foldl_cons, ← reassigned, hchange, updateSigner, List.map_map]
      rfl
    · rw [(hsame _).1, (hsame _).2]
      split <;> exact ⟨rfl, rfl⟩

/-- A reissued envelope is valid, with its new document. -/
theorem Valid.reissued {target : Envelope} (h : Valid runtime system.storage target)
    (hstatus : target.status = .pending)
    (hpending : ∀ signer ∈ target.signers, signer.status = .pending) {stored : PutObject}
    {suffix : String} (hproper : (SignatureFile.prepared suffix).Proper)
    (hkey : IsKeyOf target.verificationCode (.prepared suffix) stored.key) :
    Valid runtime (system.storage.putAll [stored]) (reissuedEnvelope runtime input stored target) := by
  obtain ⟨change, hchange, hsame⟩ := reassigned_eq_map (signersInOrder input) target.signers
  have horders : (reassigned (signersInOrder input) target.signers).map SignerRow.signOrder =
      target.signers.map SignerRow.signOrder := by
    rw [hchange, List.map_map]
    exact List.map_congr_left fun signer _ => (hsame signer).1
  refine ⟨?_, ?_, ⟨[], reassigned (signersInOrder input) target.signers, rfl, by simp, ?_, rfl,
    .prepared suffix, hproper, hkey, suffix, rfl⟩, stored.body, KeyedMap.get?_set_self _ _ _, rfl⟩
  · intro signer hsigner
    simp only [reissuedEnvelope, hchange] at hsigner
    obtain ⟨old, hold, rfl⟩ := List.mem_map.mp hsigner
    rw [(hsame old).1]
    exact h.positive old hold
  · simp only [reissuedEnvelope, horders]
    exact h.ordered
  · simp only [reissuedEnvelope, hstatus, hchange]
    refine ⟨fun hnil => ?_, fun signer hsigner => ?_⟩
    · obtain ⟨done, rest, hprogress⟩ := h.progress
      have hwaiting := hprogress.waiting
      rw [hstatus] at hwaiting
      rw [List.map_eq_nil_iff, hprogress.slots, List.append_eq_nil_iff] at hnil
      exact hwaiting.1 hnil.2
    · obtain ⟨old, hold, rfl⟩ := List.mem_map.mp hsigner
      rw [(hsame old).2]
      exact hpending old hold

/-- What a reissue puts and commits. -/
theorem reissue_cases (runtime : Runtime) (system : System) (externalReference : String)
    (input : SignatureRequest) (now : Instant) :
    (∃ error, reissue runtime system externalReference input now = refused error) ∨
    ∃ target ∈ system.envelopes, target.id = externalReference ∧ target.status = .pending ∧
      (∀ signer ∈ target.signers, signer.status = .pending) ∧
      runtime.sha256 input.pdf = input.pdfSha256 ∧
      ∃ key, reissuedKey runtime input target.verificationCode = some key ∧
        reissue runtime system externalReference input now =
          ⟨[⟨system.driver, key, preparedDocument runtime input target.verificationCode now⟩],
            .ok (updateEnvelope system.envelopes target.id (reissuedEnvelope runtime input
              ⟨system.driver, key,
                preparedDocument runtime input target.verificationCode now⟩))⟩ := by
  unfold reissue
  cases henvelope : envelope system.envelopes externalReference with
  | error error => exact Or.inl ⟨error, rfl⟩
  | ok target =>
    obtain ⟨htarget, hid⟩ := envelope_eq_ok henvelope
    simp only
    split_ifs with hopen hhash
    · exact Or.inl ⟨_, rfl⟩
    · exact Or.inl ⟨_, rfl⟩
    · cases hkey : validKey (reissuedKey runtime input target.verificationCode) with
      | error error => exact Or.inl ⟨error, rfl⟩
      | ok key =>
        simp only [not_or, not_not, Bool.not_eq_true, List.any_eq_false, decide_eq_true_eq]
          at hopen hhash
        exact Or.inr ⟨target, htarget, hid, hopen.1, hopen.2, hhash, key, validKey_eq_ok hkey,
          rfl⟩

/-- A reissue keeps the invariant, unless it is rolled back after it overwrote the
current document. -/
theorem Invariant.reissue (h : Invariant runtime system) {externalReference : String}
    {now : Instant} :
    (∀ envelopes, (reissue runtime system externalReference input now).outcome = .ok envelopes →
      Invariant runtime { system with
        storage := system.storage.putAll (reissue runtime system externalReference input now).puts
        envelopes := envelopes } ∧ SignedKept system.envelopes envelopes) ∧
    ∀ puts, (puts = 0 ∨ ¬OverwritesCurrent runtime system externalReference input now) →
      Invariant runtime { system with
        storage := system.storage.putAll
          ((reissue runtime system externalReference input now).puts.take puts) } := by
  rcases reissue_cases runtime system externalReference input now with
    ⟨error, hattempt⟩ | ⟨target, htarget, hid, hstatus, hpending, hhash, key, hkey, hattempt⟩
  · rw [hattempt]
    exact ⟨(h.keeps_refused error).committed, fun puts _ => (h.keeps_refused error).rolledBack puts⟩
  · obtain ⟨suffix, hproper, hname⟩ := isKeyOf_prepared hkey
    have hfile : ∀ file ∈ [(⟨system.driver, key,
        preparedDocument runtime input target.verificationCode now⟩ : PutObject)],
        FileOf target.verificationCode file := by
      simpa using ⟨_, hproper, hname⟩
    have hvalid := h.envelopes target htarget
    rw [hattempt]
    refine ⟨fun envelopes he => ?_, fun puts hputs => ?_⟩
    · cases he
      refine h.update htarget _ hfile (fun _ => rfl) (fun _ => rfl)
        (hvalid.reissued hstatus hpending hproper hname) fun signer hsigner hsigned => ?_
      rw [hpending signer hsigner] at hsigned
      cases hsigned
    · rcases hputs with rfl | hkeeps
      · exact h
      · refine h.keepsRolledBack htarget hfile (fun file hmem hsame => ?_) puts
        rw [List.mem_singleton.mp hmem] at hsame ⊢
        by_contra hother
        obtain ⟨hdriver, hcurrent⟩ := Prod.mk.inj hsame
        exact hkeeps ⟨target, htarget, hid, hstatus, hpending, hhash, hdriver,
          hcurrent ▸ hkey, hother⟩

end Prepared

/-! ### Runs -/

section Runs

variable {runtime : Runtime} {system after : System}

theorem SignedKept.refl (envelopes : List Envelope) : SignedKept envelopes envelopes :=
  fun envelope henvelope => ⟨envelope, henvelope, rfl, fun _ hsigner _ => hsigner⟩

/-- What is kept has the status it had, so signed slots are kept over several steps. -/
theorem SignedKept.trans {before middle final : List Envelope} (h : SignedKept before middle)
    (h' : SignedKept middle final) : SignedKept before final := by
  intro envelope henvelope
  obtain ⟨next, hnext, hid, hsigned⟩ := h envelope henvelope
  obtain ⟨last, hlast, hid', hsigned'⟩ := h' next hnext
  exact ⟨last, hlast, hid'.trans hid, fun signer hsigner hstatus =>
    hsigned' signer (hsigned signer hsigner hstatus) hstatus⟩

/-- A step that keeps the current documents keeps the invariant and the signed slots. -/
theorem Invariant.step (h : Invariant runtime system) (hstep : KeepingStep runtime system after) :
    Invariant runtime after ∧ SignedKept system.envelopes after.envelopes := by
  obtain ⟨event, hnext, hpromised, hkeeps⟩ := hstep
  cases event with
  | configured driver =>
    cases hnext
    exact ⟨⟨h.ids, h.codes, h.envelopes⟩, SignedKept.refl _⟩
  | committed call =>
    simp only [next] at hnext
    split at hnext
    · cases hnext
    · next envelopes houtcome =>
      cases hnext
      cases call with
      | request input code id now => exact (h.request hpromised).committed envelopes houtcome
      | capture reference input now => exact (h.capture reference input now).committed _ houtcome
      | reject reference input now => exact (h.reject reference input now).committed _ houtcome
      | void reference => exact (h.void reference).committed _ houtcome
      | reissue reference input now => exact h.reissue.1 _ houtcome
  | rolledBack call puts =>
    cases hnext
    refine ⟨?_, SignedKept.refl _⟩
    cases call with
    | request input code id now => exact (h.request hpromised).rolledBack puts
    | capture reference input now => exact (h.capture reference input now).rolledBack puts
    | reject reference input now => exact (h.reject reference input now).rolledBack puts
    | void reference => exact (h.void reference).rolledBack puts
    | reissue reference input now => exact h.reissue.2 puts hkeeps

/-- The invariant and the signed slots are kept by a whole run. -/
theorem Invariant.run (h : Invariant runtime system)
    (hrun : Relation.ReflTransGen (KeepingStep runtime) system after) :
    Invariant runtime after ∧ SignedKept system.envelopes after.envelopes := by
  induction hrun with
  | refl => exact ⟨h, SignedKept.refl _⟩
  | tail _ hstep ih =>
    obtain ⟨hinvariant, hkept⟩ := ih.1.step hstep
    exact ⟨hinvariant, ih.2.trans hkept⟩

theorem invariant_nil (h : system.envelopes = []) : Invariant runtime system where
  ids := by simp [h]
  codes := by simp [h]
  envelopes := by simp [h]

/-- In every run that keeps the current documents, every envelope is whole in every state
and its signed slots stay as they are. -/
theorem whole_of_run {start final : System} (hstart : start.envelopes = [])
    (hrun : Relation.ReflTransGen (KeepingStep runtime) start system)
    (hlater : Relation.ReflTransGen (KeepingStep runtime) system final) :
    (∀ envelope ∈ system.envelopes, Whole runtime system.storage envelope) ∧
      SignedKept system.envelopes final.envelopes := by
  have h := ((invariant_nil hstart).run hrun).1
  exact ⟨fun envelope henvelope => (h.envelopes envelope henvelope).whole, (h.run hlater).2⟩

end Runs

/-! ### Two runs -/

instance neZeroThirtyOne : NeZero 31 := ⟨by decide⟩

/-- Noon of a day of January 2026. -/
def sampleNoon (day : Fin 31) : Instant :=
  ⟨2026, 1, day + 1, 12, 0, 0, 0, by
    have hday := day.isLt
    have hdays : daysInMonth 2026 1 = 31 := rfl
    omega⟩

/-- The bytes of the document to be signed. -/
def samplePdf : Content := [0x25, 0x50, 0x44, 0x46]

/-- The bytes of the signer's rubric. -/
def sampleRubric : Content := pngStart ++ [0]

/-- What a library that only dates what it saves makes of a document. -/
def dated (content : Content) (now : Instant) : Content :=
  content ++ now.toISOString.toList.map fun c => c.toNat.toUInt8

/-- The hashes of the documents of the runs. -/
def sampleHashes : List (Content × String) :=
  [(samplePdf, "315d429b7714cedb6ad04ac31240145257692630457f3c88253c5beceac76027"),
    (dated samplePdf (sampleNoon 0),
      "30f865efec60d24c4feb469d6d791a6cc90dd57468062457dd0a7d6de09be217"),
    (dated samplePdf (sampleNoon 1),
      "efef6486096696dba3f8a346e7d4b117442ef9219c4738c8f95304dd94528c2b"),
    (dated samplePdf (sampleNoon 2),
      "a62c45588f875b4934d5ca0a4541a1e4845e5d0b60258e94d38b855b8c3d31b7"),
    (dated (dated samplePdf (sampleNoon 0)) (sampleNoon 1),
      "dfe660bf1cca31def3216d1722102cdb200fdac43cbda8c2e88fc5f46dde94f5"),
    (sampleRubric, "843ac23b1736b4487ec81cf7c07ddd9bb46ae5b7818c2c3843d99d62fa75f3c9")]

/-- A runtime for documents of 2026. -/
def sampleRuntime : Runtime where
  sha256 content := ((sampleHashes.find? fun entry => entry.1 = content).map Prod.snd).getD ""
  calendarYear _ := "2026"
  prepareForSignature content _ now := dated content now
  stampSignature content _ now := dated content now
  signatureVerifyUrl := "https://localhost/verificar"

/-- The id of the document. -/
def sampleDocumentId : String := "00000000-0000-4000-8000-000000000001"

/-- The request of a document with one signer. -/
def sampleRequest : SignatureRequest where
  documentId := sampleDocumentId
  documentCreatedAt := sampleNoon 0
  documentNumber := "ACTA-1"
  formatKey := "TRASLADO"
  title := none
  pdf := samplePdf
  pdfSha256 := "315d429b7714cedb6ad04ac31240145257692630457f3c88253c5beceac76027"
  signers := [⟨1, "ENTREGA", none, some "persona-1", some "Ana", none⟩]

/-- The signature of the only signer. -/
def sampleCapture : SignatureCapture :=
  ⟨1, "persona-1", none, none, .session true "usuario-1" "sesion-1", sampleRubric⟩

/-- A system with a document and no envelope. -/
def sampleSystem : System :=
  ⟨KeyedMap.empty, [], KeyedMap.empty.set sampleDocumentId (sampleNoon 0), .project⟩

/-- The state after some events. -/
def sampleRun (system : System) : List Event → Option System
  | [] => some system
  | event :: rest => (next sampleRuntime system event).bind fun after => sampleRun after rest

/-- Every event is a step of the relation. -/
def Along (relation : System → System → Prop) (system : System) : List Event → Prop
  | [] => True
  | event :: rest => ∀ after, next sampleRuntime system event = some after →
      relation system after ∧ Along relation after rest

theorem reflTransGen_of_sampleRun {relation : System → System → Prop} {events : List Event}
    {system final : System} (h : Along relation system events)
    (hrun : sampleRun system events = some final) :
    Relation.ReflTransGen relation system final := by
  induction events generalizing system with
  | nil =>
    cases hrun
    exact .refl
  | cons event rest ih =>
    obtain ⟨after, hafter, hrest⟩ := Option.bind_eq_some_iff.mp hrun
    obtain ⟨hstep, halong⟩ := h after hafter
    exact .head hstep (ih halong hrest)

/-- The events of the request and of the signature. -/
def sampleSigning : List Event :=
  [.committed (.request sampleRequest "AAAAAAAAAAAAAAAAAAAAAAAAAAAAAAAA" "sobre-1" (sampleNoon 0)),
    .committed (.capture "sobre-1" sampleCapture (sampleNoon 1))]

/-- The events of the request and of two reissues of the same document, the
second of which is rolled back. -/
def sampleReissuing : List Event :=
  [.committed (.request sampleRequest "AAAAAAAAAAAAAAAAAAAAAAAAAAAAAAAA" "sobre-1" (sampleNoon 0)),
    .committed (.reissue "sobre-1" sampleRequest (sampleNoon 1)),
    .rolledBack (.reissue "sobre-1" sampleRequest (sampleNoon 2)) 1]

/-- The current document of some envelope is not stored with its hash. -/
def sampleBroken (system : System) : Bool :=
  system.envelopes.any fun envelope =>
    (system.storage.get? (envelope.currentPdfDriver, envelope.currentPdfKey)).all fun content =>
      sampleRuntime.sha256 content ≠ envelope.currentPdfSha256

theorem samplePromised : PromisedCall sampleSystem
    (.request sampleRequest "AAAAAAAAAAAAAAAAAAAAAAAAAAAAAAAA" "sobre-1" (sampleNoon 0)) :=
  ⟨by simp [sampleSystem], by simp [sampleRequest], by simp [sampleRequest]⟩

/-- Once its only signer has signed, the envelope of the request is whole. -/
theorem whole_of_run_signed : ∃ final, sampleRun sampleSystem sampleSigning = some final ∧
    final.envelopes ≠ [] ∧
    (∀ envelope ∈ final.envelopes, Whole sampleRuntime final.storage envelope) ∧
      SignedKept final.envelopes final.envelopes := by
  have hsome : (sampleRun sampleSystem sampleSigning).any
      (fun final => decide (final.envelopes.map Envelope.id = ["sobre-1"])) = true := by
    decide +kernel
  obtain ⟨final, hfinal, hids⟩ := (Option.any_eq_true ..).mp hsome
  have halong : Along (KeepingStep sampleRuntime) sampleSystem sampleSigning :=
    fun after hafter => ⟨⟨_, hafter, samplePromised, trivial⟩,
      fun after hafter => ⟨⟨_, hafter, trivial, trivial⟩, trivial⟩⟩
  refine ⟨final, hfinal, fun hnil => ?_,
    whole_of_run rfl (reflTransGen_of_sampleRun halong hfinal) .refl⟩
  rw [hnil] at hids
  cases hids

/-- A second reissue of the same document, rolled back once its file is put, leaves other
bytes under the key of the current document. -/
theorem reissue_overwrites_current : ∃ final,
    Relation.ReflTransGen (Step sampleRuntime) sampleSystem final ∧ sampleSystem.envelopes = [] ∧
      ∃ envelope ∈ final.envelopes, ¬Whole sampleRuntime final.storage envelope := by
  have hsome : (sampleRun sampleSystem sampleReissuing).any sampleBroken = true := by
    decide +kernel
  obtain ⟨final, hfinal, hbroken⟩ := (Option.any_eq_true ..).mp hsome
  have halong : Along (Step sampleRuntime) sampleSystem sampleReissuing :=
    fun after hafter => ⟨⟨_, hafter, samplePromised⟩, fun after hafter => ⟨⟨_, hafter, trivial⟩,
      fun after hafter => ⟨⟨_, hafter, trivial⟩, trivial⟩⟩⟩
  obtain ⟨envelope, henvelope, hother⟩ := List.any_eq_true.mp hbroken
  refine ⟨final, reflTransGen_of_sampleRun halong hfinal, rfl, envelope, henvelope, fun h => ?_⟩
  obtain ⟨content, hcontent, hhash⟩ := h.stored
  rw [hcontent] at hother
  simp [hhash] at hother

end InternalControl.SignatureEnvelope
