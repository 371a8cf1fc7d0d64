import InternalControl.AllOrNothing
import InternalControl.Interleaving

/-!
# Previews that are committed

The rows of a preview are created one by one. The mark that the preview is
committed is read at the start of a call, and written when the call has created
its rows. Between the two any other call, or a failure, may come.
-/

namespace InternalControl.AssetImports

open Interleaving

/-- An asset that was created from a row of a preview, by one of the calls. -/
structure ImportedRow where
  previewId : Uuid
  row : ℕ
  call : ℕ
  assetId : Uuid
  deriving DecidableEq

/-- The database, with the number of calls that found their preview and what each one has
created. -/
structure PreviewStore where
  db : Database
  calls : ℕ
  imported : List ImportedRow

/-- How far a call has come with the rows of a preview. -/
structure ImportCall where
  call : ℕ
  previewId : Uuid
  rows : List CreateAssetDto
  mode : ImportMode
  actorId : Uuid
  index : ℕ
  created : List Asset
  errors : List AssetImportError

inductive ImportPhase
  | idle
  | creating (call : ImportCall)
  /-- What the catalogues say of a row was looked up. -/
  | prepared (call : ImportCall) (dto : CreateAssetDto) (prepared : Prepared)
  | marking (previewId : Uuid)

inductive ImportStatement
  | findImportBatch (previewId : Uuid) (mode : ImportMode) (actorId : Uuid) (now : ℤ)
  | prepareNew
  | insertNew (ids : NewIds)
  | recordAudit
  | markImportCommitted (now : ℤ)
  | fail

/-- Where a call goes from a row that is refused. -/
def ImportCall.refused (call : ImportCall) (failure : Failure) : ImportPhase :=
  if call.mode = .allOrNothing then .idle
  else .creating { call with
    index := call.index + 1
    errors := call.errors ++ [toImportError failure (call.index + 1)] }

/-- The call that a preview is committed by. -/
def openCall (store : PreviewStore) (batch : AssetImportBatch) (mode : ImportMode)
    (actorId : Uuid) : ImportCall where
  call := store.calls
  previewId := batch.id
  rows := batch.payload
  mode := mode
  actorId := actorId
  index := 0
  created := []
  errors := []

/-- Write down what a call has created. -/
def PreviewStore.record (store : PreviewStore) (call : ImportCall) (asset : Asset) (db : Database) :
    PreviewStore :=
  { store with
    db := db
    imported := store.imported ++ [⟨call.previewId, call.index, call.call, asset.id⟩] }

/-- The statements of the calls that commit previews. -/
def importProgram (runtime : Runtime) {ι : Type} :
    Program ι PreviewStore ImportPhase ImportStatement
  | _, .findImportBatch previewId mode actorId now, store, .idle =>
    match committable store.db previewId now with
    | .error _ => some (store, .idle)
    | .ok batch =>
      if maxImportRows < batch.payload.length then some (store, .idle)
      else some ({ store with calls := store.calls + 1 },
        .creating (openCall store batch mode actorId))
  | _, .prepareNew, store, .creating call =>
    match call.rows[call.index]? with
    | none => none
    | some dto =>
      match prepareNew runtime store.db dto with
      | .error failure => some (store, call.refused failure)
      | .ok prepared => some (store, .prepared call dto prepared)
  | _, .insertNew ids, store, .prepared call dto prepared =>
    match insertNew runtime store.db dto call.actorId prepared ids with
    | .error failure => some (store, call.refused (rethrowUnique failure))
    | .ok (asset, db) => some (store.record call asset db,
        .creating { call with index := call.index + 1, created := call.created ++ [asset] })
  | _, .recordAudit, store, .creating call =>
    if call.index < call.rows.length then none
    else some ({ store with db :=
      if call.created = [] then store.db
      else { store.db with
        audits := store.db.audits ++ [(call.created.length, call.errors.length)] } },
      .marking call.previewId)
  | _, .markImportCommitted now, store, .marking previewId =>
    some ({ store with db := markImportCommitted store.db previewId now }, .idle)
  | _, .fail, store, _ => some (store, .idle)
  | _, _, _, _ => none

/-- No call has found its preview yet. -/
def previewStart (ι : Type) (db : Database) : Interleaving ι PreviewStore ImportPhase :=
  ⟨⟨db, 0, []⟩, fun _ => .idle⟩

/-- One call creates the assets of a preview: when it inserts a row, no other call has inserted
any. -/
def ByOneCall {ι : Type} : ι → ImportStatement → PreviewStore → ImportPhase → Prop
  | _, .insertNew _, store, .prepared call _ _ =>
    ∀ entry ∈ store.imported, entry.previewId = call.previewId → entry.call = call.call
  | _, _, _, _ => True

instance {ι : Type} (i : ι) (statement : ImportStatement) (store : PreviewStore)
    (phase : ImportPhase) : Decidable (ByOneCall i statement store phase) := by
  unfold ByOneCall
  split <;> infer_instance

/-! ### What the calls create -/

/-- No row of a preview was created twice, and the calls so far have created what there is. -/
structure CreatedOnce (store : PreviewStore) : Prop where
  once : (store.imported.map fun entry => (entry.previewId, entry.row)).Nodup
  known : ∀ entry ∈ store.imported, entry.call < store.calls

/-- The call that a phase is of. -/
def ImportPhase.call? : ImportPhase → Option ImportCall
  | .creating call => some call
  | .prepared call _ _ => some call
  | _ => none

/-- A call has created rows before the one it is at. -/
def Advancing (store : PreviewStore) (phase : ImportPhase) : Prop :=
  ∀ call ∈ phase.call?, call.call < store.calls ∧
    ∀ entry ∈ store.imported, entry.call = call.call → entry.row < call.index

/-- Two calls have numbers of their own. -/
def OtherCall (phase other : ImportPhase) : Prop :=
  ∀ call ∈ phase.call?, ∀ call' ∈ other.call?, call.call ≠ call'.call

theorem ImportCall.refused_call? {call other : ImportCall} {failure : Failure}
    (h : other ∈ (call.refused failure).call?) :
    other.call = call.call ∧ other.index = call.index + 1 := by
  unfold ImportCall.refused at h
  split at h
  · cases h
  · cases h
    exact ⟨rfl, rfl⟩

/-- What a statement of a call does: it opens a call, goes on with its own and creates nothing,
creates the row it is at, or ends. -/
inductive ImportStep (store : PreviewStore) (phase : ImportPhase) :
    PreviewStore → ImportPhase → Prop
  | opened (call : ImportCall) (hcall : call.call = store.calls) :
      ImportStep store phase { store with calls := store.calls + 1 } (.creating call)
  | went (db : Database) (phase' : ImportPhase)
      (hsame : ∀ call' ∈ phase'.call?, ∃ call ∈ phase.call?, call'.call = call.call ∧
        call.index ≤ call'.index) :
      ImportStep store phase { store with db := db } phase'
  | created (call call' : ImportCall) (asset : Asset) (db : Database)
      (hcall : call ∈ phase.call?) (hsame : call'.call = call.call)
      (hnext : call'.index = call.index + 1)
      (hone : ∀ entry ∈ store.imported, entry.previewId = call.previewId → entry.call = call.call) :
      ImportStep store phase (store.record call asset db) (.creating call')

theorem importStep_of_program {ι : Type} {i : ι} {statement : ImportStatement}
    {store store' : PreviewStore} {phase phase' : ImportPhase} {runtime : Runtime}
    (hmeets : ByOneCall i statement store phase)
    (h : importProgram runtime i statement store phase = some (store', phase')) :
    ImportStep store phase store' phase' := by
  unfold importProgram at h
  split at h
  · split at h
    · cases h
      exact .went _ _ (fun _ hnone => (by cases hnone))
    · split at h
      · cases h
        exact .went _ _ (fun _ hnone => (by cases hnone))
      · cases h
        exact .opened _ rfl
  · next call =>
    split at h
    · cases h
    · split at h
      · cases h
        refine .went _ _ fun call' hcall' => ⟨call, rfl, ?_⟩
        have hrefused := ImportCall.refused_call? hcall'
        exact ⟨hrefused.1, by omega⟩
      · cases h
        refine .went _ _ fun call' hcall' => ⟨call, rfl, ?_⟩
        cases hcall'
        exact ⟨rfl, Nat.le_refl _⟩
  · next call dto prepared =>
    split at h
    · cases h
      refine .went _ _ fun call' hcall' => ⟨call, rfl, ?_⟩
      have hrefused := ImportCall.refused_call? hcall'
      exact ⟨hrefused.1, by omega⟩
    · cases h
      exact .created call _ _ _ rfl rfl rfl hmeets
  · split at h
    · cases h
    · cases h
      exact .went _ _ (fun _ hnone => (by cases hnone))
  · cases h
    exact .went _ _ (fun _ hnone => (by cases hnone))
  · cases h
    exact .went _ _ (fun _ hnone => (by cases hnone))
  · cases h

section Runs

variable {ι : Type} {runtime : Runtime} {store store' : PreviewStore} {phase phase' : ImportPhase}

/-- A call creates the row it is at for the first time: its own rows come before. -/
theorem CreatedOnce.step (h : CreatedOnce store) (hadvancing : Advancing store phase)
    (hstep : ImportStep store phase store' phase') :
    CreatedOnce store' ∧ Advancing store' phase' := by
  cases hstep with
  | opened call hcall =>
    refine ⟨⟨h.once, fun entry hentry => Nat.lt_succ_of_lt (h.known entry hentry)⟩, ?_⟩
    rintro _ ⟨⟩
    refine ⟨?_, fun entry hentry hsame => ?_⟩
    · dsimp only
      omega
    · have hknown := h.known entry hentry
      omega
  | went db phase' hsame =>
    refine ⟨⟨h.once, h.known⟩, fun call' hcall' => ?_⟩
    obtain ⟨call, hcall, hcalls, hle⟩ := hsame call' hcall'
    obtain ⟨hlt, hrows⟩ := hadvancing call hcall
    rw [hcalls]
    refine ⟨hlt, fun entry hentry hown => ?_⟩
    have hrow := hrows entry hentry hown
    omega
  | created call call' asset db hcall hsame hnext hone =>
    obtain ⟨hlt, hrows⟩ := hadvancing call hcall
    refine ⟨⟨?_, fun entry hentry => ?_⟩, ?_⟩
    · unfold PreviewStore.record
      dsimp only
      rw [List.map_append, List.nodup_append]
      refine ⟨h.once, List.nodup_singleton _, ?_⟩
      rintro _ hbefore _ hlast rfl
      obtain ⟨entry, hentry, heq⟩ := List.mem_map.mp hbefore
      obtain ⟨hpreview, hrow⟩ := Prod.mk.inj (heq.trans (List.mem_singleton.mp hlast))
      have hbehind := hrows entry hentry (hone entry hentry hpreview)
      exact absurd hrow (Nat.ne_of_lt hbehind)
    · rcases List.mem_append.mp hentry with hold | hnew
      · exact h.known entry hold
      · cases List.mem_singleton.mp hnew
        exact hlt
    · rintro _ ⟨⟩
      rw [hsame]
      refine ⟨hlt, fun entry hentry hown => ?_⟩
      rcases List.mem_append.mp hentry with hold | hnew
      · have hrow := hrows entry hold hown
        omega
      · cases List.mem_singleton.mp hnew
        dsimp only
        omega

/-- The other calls stay behind their rows: what is created is of the call that creates it. -/
theorem Advancing.other {other : ImportPhase} (hother : Advancing store other)
    (happart : OtherCall phase other) (hstep : ImportStep store phase store' phase') :
    Advancing store' other ∧ OtherCall phase' other := by
  cases hstep with
  | opened call hcall =>
    refine ⟨fun call' hcall' => ?_, ?_⟩
    · obtain ⟨hlt, hrows⟩ := hother call' hcall'
      exact ⟨Nat.lt_succ_of_lt hlt, hrows⟩
    · rintro _ ⟨⟩ call' hcall'
      obtain ⟨hlt, -⟩ := hother call' hcall'
      omega
  | went db phase' hsame =>
    refine ⟨hother, fun call' hcall' last hlast => ?_⟩
    obtain ⟨call, hcall, hcalls, -⟩ := hsame call' hcall'
    rw [hcalls]
    exact happart call hcall last hlast
  | created call call' asset db hcall hsame hnext hone =>
    refine ⟨fun last hlast => ?_, ?_⟩
    · obtain ⟨hlt, hrows⟩ := hother last hlast
      refine ⟨hlt, fun entry hentry hown => ?_⟩
      rcases List.mem_append.mp hentry with hold | hnew
      · exact hrows entry hold hown
      · cases List.mem_singleton.mp hnew
        exact absurd hown (happart call hcall last hlast)
    · rintro _ ⟨⟩ last hlast
      rw [hsame]
      exact happart call hcall last hlast

theorem importProgram_keeps : Keeps (@importProgram runtime ι) ByOneCall CreatedOnce
    (fun _ store phase => Advancing store phase) OtherCall where
  symm := fun _ _ happart call hcall call' hcall' => (happart call' hcall' call hcall).symm
  own := fun _ _ _ _ _ _ hmeets h honce hadvancing =>
    honce.step hadvancing (importStep_of_program hmeets h)
  other := fun _ _ _ _ _ _ _ _ _ hmeets h _ _ hother happart =>
    hother.other happart (importStep_of_program hmeets h)

variable [DecidableEq ι]

end Runs

section PreviewSamples

/-- A row whose code is the next one. -/
def plainRow : CreateAssetDto where
  description := "Silla"
  categoryId := "category"
  costCenterId := "center"
  acquisitionTypeId := "purchase"
  acquisitionDate := "2026-03-15"

/-- A preview of one row. -/
def previewed : Database :=
  { emptyStore with
    sequence := some ⟨0, 4⟩
    batches := ⟨[⟨"p1", [plainRow], 1000, none⟩], List.nodup_singleton _⟩ }

/-- A call that creates the row. -/
def createRow (i : Bool) (n : ℕ) : List (Bool × ImportStatement) :=
  [(i, .prepareNew), (i, .insertNew (drawnIds n))]

def findPreview (i : Bool) : Bool × ImportStatement :=
  (i, .findImportBatch "p1" .partial_ "ana" 5)

end PreviewSamples

end InternalControl.AssetImports
