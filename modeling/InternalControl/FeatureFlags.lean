import InternalControl.Table
import InternalControl.RefreshTokens

/-!
# Feature flags and their circuit breaker

Every instance of the server decides by a copy of the flags that it keeps in
memory, and writes to one table. The breaker writes with conditional statements
that look at the row itself; a person writes with a save, which reads the row
and then writes the columns that differ from what it read. The copies may be
stale in any way, and the statements of all instances interleave.
-/

namespace InternalControl.FeatureFlags

open RefreshTokens (Time)

inductive FeatureDisabledReason where
  | manual
  | circuit
  | env
  | default
  deriving DecidableEq

structure FeatureDefinition where
  code : String
  core : Bool
  defaultEnabled : Option Bool
  deriving DecidableEq

/-- The modules that can be switched, with those that cannot. -/
def featureCatalog : List FeatureDefinition :=
  (["auth", "roles", "users", "features"].map fun code => ⟨code, true, none⟩) ++
    (["campus", "buildings", "locations", "organizational-units", "cost-centers", "categories",
      "dynamic-fields", "assets", "qr-tokens", "movements", "loans", "inventories"].map
      fun code => ⟨code, false, none⟩) ++
    [⟨"depreciation", false, some false⟩] ++
    ["document-templates", "storage", "mail"].map fun code => ⟨code, false, none⟩

def findFeatureDefinition (code : String) : Option FeatureDefinition :=
  featureCatalog.find? fun definition => definition.code = code

structure FeatureFlag where
  code : String
  enabled : Bool
  disabledReason : Option FeatureDisabledReason
  disabledAt : Option Time
  updatedAt : Time
  deriving DecidableEq

/-- The rows of the flags, by their code. -/
abbrev Flags := Table FeatureFlag.code

/-- What an instance remembers of a row. -/
structure RuntimeOverride where
  enabled : Bool
  reason : Option FeatureDisabledReason
  disabledAt : Option Time
  deriving DecidableEq

inductive CircuitPhase where
  | opened
  | halfOpen
  deriving DecidableEq

def probeLeaseMs : ℤ := 30000

structure Config where
  overrides : String → Option Bool
  circuitWindowMs : ℤ
  circuitThreshold : ℕ
  circuitCooldownMs : ℤ

/-- The memory of an instance. -/
structure Instance where
  config : Config
  stored : String → Option RuntimeOverride
  failures : String → Option (List Time)
  probes : String → Option Time
  tripping : String → Bool
  writeSeq : ℕ

section Reads

variable (instance_ : Instance) (code : String)

def retryAtOf (stored : RuntimeOverride) : Time :=
  stored.disabledAt.getD 0 + instance_.config.circuitCooldownMs

/-- Whether the breaker has opened the module, by the memory of the instance. -/
def circuitPhase (now : Time) : Option CircuitPhase :=
  match findFeatureDefinition code with
  | none => none
  | some definition =>
    if definition.core ∨ instance_.config.overrides code ≠ none then none
    else
      match instance_.stored code with
      | none => none
      | some stored =>
        if stored.enabled ∨ stored.reason ≠ some .circuit then none
        else if now < retryAtOf instance_ stored then some .opened else some .halfOpen

/-- Whether the snapshot of a module shows it as enabled. -/
def snapshotEnabled (now : Time) : Bool :=
  match findFeatureDefinition code with
  | none => true
  | some definition =>
    if definition.core then true
    else
      match instance_.config.overrides code with
      | some override => override
      | none =>
        match instance_.stored code with
        | some stored =>
          match circuitPhase instance_ code now with
          | some .halfOpen => true
          | some .opened => false
          | none => stored.enabled
        | none => definition.defaultEnabled.getD true

/-- The readings of the clock within one turn of an instance, in order. -/
abbrev Clock := ℕ → Time

def isEnabled (clock : Clock) : Bool :=
  if circuitPhase instance_ code (clock 0) = some .halfOpen then false
  else snapshotEnabled instance_ code (clock 1)

end Reads

section Memory

def Instance.store (instance_ : Instance) (code : String) (next : Option RuntimeOverride) :
    Instance :=
  { instance_ with stored := Function.update instance_.stored code next }

def Instance.dropProbe (instance_ : Instance) (code : String) : Instance :=
  { instance_ with probes := Function.update instance_.probes code none }

def Instance.dropFailures (instance_ : Instance) (code : String) : Instance :=
  { instance_ with failures := Function.update instance_.failures code none }

def Instance.setTripping (instance_ : Instance) (code : String) (tripping : Bool) : Instance :=
  { instance_ with tripping := Function.update instance_.tripping code tripping }

/-- A write that begins or ends. -/
def Instance.noteWrite (instance_ : Instance) : Instance :=
  { instance_ with writeSeq := instance_.writeSeq + 1 }

/-- The copy of a module in memory takes on what was read. -/
def apply (instance_ : Instance) (code : String) (next : Option RuntimeOverride) : Instance :=
  let kept := instance_.store code next
  if next.bind RuntimeOverride.reason = some .circuit then kept else kept.dropProbe code

def asDisabledReason : Option FeatureDisabledReason → Option FeatureDisabledReason
  | some .manual => some .manual
  | some .circuit => some .circuit
  | some .env => some .env
  | _ => none

def toOverride (row : FeatureFlag) : RuntimeOverride where
  enabled := row.enabled
  reason := if row.enabled then none else asDisabledReason row.disabledReason
  disabledAt := if row.enabled then none else row.disabledAt

/-- All copies take on what was read: the rows, and nothing for the codes without one. -/
def applyAll (instance_ : Instance) (rows : Flags) : Instance :=
  { instance_ with
    stored := fun code => (rows.find? code).map toOverride
    probes := fun code =>
      match rows.find? code with
      | some row =>
        if (toOverride row).reason = some .circuit then instance_.probes code else none
      | none => if (instance_.stored code).isSome then none else instance_.probes code }

/-- Let a request through: the instance after it, and whether it was. -/
def admitRequest (instance_ : Instance) (code : String) (clock : Clock) : Bool × Instance :=
  if isEnabled instance_ code clock then (true, instance_)
  else if circuitPhase instance_ code (clock 2) ≠ some .halfOpen then (false, instance_)
  else
    match instance_.probes code with
    | some lease =>
      if clock 3 - lease < probeLeaseMs then (false, instance_)
      else (true, { instance_ with
        probes := Function.update instance_.probes code (some (clock 3)) })
    | none => (true, { instance_ with
        probes := Function.update instance_.probes code (some (clock 3)) })

end Memory

section Statements

/-- A conditional statement of the breaker, with the time that it writes. -/
inductive Write where
  /-- A probe succeeded. -/
  | recover (now : Time)
  /-- Too many requests failed. -/
  | trip (now : Time)
  /-- A probe failed. -/
  | rearm (now : Time)
  deriving DecidableEq

/-- The rows that the breaker has disabled. -/
abbrev ByCircuit (code : String) (row : FeatureFlag) : Prop :=
  row.code = code ∧ row.enabled = false ∧ row.disabledReason = some .circuit

/-- The rows of a code that are enabled. -/
abbrev Enabled (code : String) (row : FeatureFlag) : Prop :=
  row.code = code ∧ row.enabled = true

def recoveredRow (now : Time) (row : FeatureFlag) : FeatureFlag :=
  { row with enabled := true, disabledReason := none, disabledAt := none, updatedAt := now }

def trippedRow (now : Time) (row : FeatureFlag) : FeatureFlag :=
  { row with
    enabled := false, disabledReason := some .circuit, disabledAt := some now, updatedAt := now }

def rearmedRow (now : Time) (row : FeatureFlag) : FeatureFlag :=
  { row with disabledAt := some now, updatedAt := now }

/-- The row that a trip inserts when there is none. -/
def newTripped (code : String) (now : Time) : FeatureFlag where
  code := code
  enabled := false
  disabledReason := some .circuit
  disabledAt := some now
  updatedAt := now

/-- Whether a statement of the breaker changed a row, and the rows after it. -/
def execute (flags : Flags) (code : String) : Write → Bool × Flags
  | .recover now => (flags.affected (ByCircuit code) ≠ 0,
      flags.update (ByCircuit code) (recoveredRow now) fun _ => rfl)
  | .trip now =>
    match flags.insert (newTripped code now) with
    | some inserted => (true, inserted)
    | none => (flags.affected (Enabled code) ≠ 0,
        flags.update (Enabled code) (trippedRow now) fun _ => rfl)
  | .rearm now => (flags.affected (ByCircuit code) ≠ 0,
      flags.update (ByCircuit code) (rearmedRow now) fun _ => rfl)

/-- What a person's save writes. -/
def savedFlag (code : String) (enabled : Bool) (now : Time) : FeatureFlag where
  code := code
  enabled := enabled
  disabledReason := if enabled then none else some .manual
  disabledAt := if enabled then none else some now
  updatedAt := now

/-- The columns of a save that differ from what it read are written. -/
def writeDiffering (found saved row : FeatureFlag) : FeatureFlag where
  code := row.code
  enabled := if saved.enabled = found.enabled then row.enabled else saved.enabled
  disabledReason :=
    if saved.disabledReason = found.disabledReason then row.disabledReason
    else saved.disabledReason
  disabledAt := if saved.disabledAt = found.disabledAt then row.disabledAt else saved.disabledAt
  updatedAt := if saved.updatedAt = found.updatedAt then row.updatedAt else saved.updatedAt

/-- The second half of a save: insert when nothing was found, else write what differs. -/
def save (flags : Flags) (found : Option FeatureFlag) (saved : FeatureFlag) : Option Flags :=
  match found with
  | none => flags.insert saved
  | some row => some (flags.update (fun other => other.code = saved.code)
      (writeDiffering row saved) fun _ => rfl)

end Statements

section Calls

/-- How far a call of an instance has come. -/
inductive Stage where
  /-- A statement of the breaker is on its way to the database. -/
  | sent (code : String) (write : Write)
  /-- Its answer is on its way back. -/
  | answered (code : String) (write : Write) (affected : Bool)
  /-- The save of a person reads the row next. -/
  | selecting (code : String) (enabled : Bool) (now : Time)
  /-- The save writes next. -/
  | selected (code : String) (enabled : Bool) (now : Time) (found : Option FeatureFlag)
  /-- The save was written, and its answer is on its way back. -/
  | saved (code : String) (enabled : Bool) (now : Time)
  /-- A row is read next, after a write that changed none or after a notification. -/
  | reading (code : String) (seq : ℕ) (origin : Option Write)
  | read (code : String) (seq : ℕ) (origin : Option Write) (row : Option FeatureFlag)
  /-- All rows are read next. -/
  | readingAll (seq : ℕ)
  | readAll (seq : ℕ) (rows : Flags)
  /-- The opening or the recovery of a circuit is audited next. -/
  | auditing (code : String) (origin : Write)

/-- A call of an instance. -/
structure Call where
  server : ℕ
  stage : Stage

/-- The rows, the memory of every instance and the calls in progress. -/
structure System where
  flags : Flags
  servers : ℕ → Instance
  calls : ℕ → Option Call

/-- Put a call in a stage, and the memory of its instance in a state. -/
def System.goes (system : System) (call server : ℕ) (stage : Option Stage)
    (instance_ : Instance) : System :=
  { system with
    servers := Function.update system.servers server instance_
    calls := Function.update system.calls call (stage.map fun stage => ⟨server, stage⟩) }

/-- A request on a module succeeded. -/
def recordSuccess (instance_ : Instance) (code : String) (clock : Clock) :
    Option Stage × Instance :=
  match instance_.probes code with
  | none => (none, instance_)
  | some _ =>
    let dropped := instance_.dropProbe code
    if circuitPhase dropped code (clock 0) ≠ some .halfOpen then (none, dropped)
    else (some (.sent code (.recover (clock 1))), dropped.noteWrite)

/-- A probe failed. -/
def rearm (instance_ : Instance) (code : String) (clock : Clock) : Option Stage × Instance :=
  if circuitPhase instance_ code (clock 0) ≠ some .halfOpen then (none, instance_)
  else (some (.sent code (.rearm (clock 1))), instance_.noteWrite)

/-- Too many requests failed. -/
def trip (instance_ : Instance) (code : String) (now : Time) : Option Stage × Instance :=
  (some (.sent code (.trip now)), (instance_.dropFailures code).noteWrite)

/-- A request on a module failed. -/
def recordFailure (instance_ : Instance) (code : String) (clock : Clock) :
    Option Stage × Instance :=
  match findFeatureDefinition code with
  | none => (none, instance_)
  | some definition =>
    if definition.core ∨ instance_.config.overrides code ≠ none then (none, instance_)
    else if (instance_.probes code).isSome then rearm (instance_.dropProbe code) code clock
    else if ¬isEnabled instance_ code clock then (none, instance_)
    else
      let now := clock 2
      let recent := (((instance_.failures code).getD []).filter fun failedAt =>
        now - failedAt < instance_.config.circuitWindowMs) ++ [now]
      let noted := { instance_ with
        failures := Function.update instance_.failures code (some recent) }
      if recent.length < instance_.config.circuitThreshold ∨ noted.tripping code then
        (none, noted)
      else trip (noted.setTripping code true) code (clock 3)

/-- A person switches a module: the checks, and then the save. -/
def setEnabled (instance_ : Instance) (code : String) (enabled : Bool) (now : Time) :
    Option Stage × Instance :=
  match findFeatureDefinition code with
  | none => (none, instance_)
  | some definition =>
    if definition.core ∨ instance_.config.overrides code ≠ none then (none, instance_)
    else (some (.selecting code enabled now), instance_.noteWrite)

/-- What a trip leaves once it is over: the module may be tripped again. -/
def release (instance_ : Instance) (code : String) : Option Write → Instance
  | some (.trip _) => instance_.setTripping code false
  | _ => instance_

/-- What the breaker remembers and does after a statement that it takes for written. -/
def afterWrite (instance_ : Instance) (code : String) : Write → Option Stage × Instance
  | .recover now => (some (.auditing code (.recover now)),
      (instance_.store code (some ⟨true, none, none⟩)).dropFailures code)
  | .trip now => (some (.auditing code (.trip now)),
      instance_.store code (some ⟨false, some .circuit, some now⟩))
  | .rearm now => (none, instance_.store code (some ⟨false, some .circuit, some now⟩))

/-- The answer of a statement of the breaker: one that changed no row has the row read. -/
def onAnswer (instance_ : Instance) (code : String) (write : Write) (affected : Bool) :
    Option Stage × Instance :=
  let ended := instance_.noteWrite
  if affected then afterWrite ended code write
  else (some (.reading code ended.writeSeq (some write)), ended)

/-- A statement that fails. A recovery is given up; the others go on as if written. -/
def onFailure (instance_ : Instance) (code : String) : Option Write → Option Stage × Instance
  | some (.trip now) => afterWrite instance_ code (.trip now)
  | some (.rearm now) => afterWrite instance_ code (.rearm now)
  | _ => (none, instance_)

/-- A row that was read is taken on, unless a write began or ended meanwhile. -/
def onRead (instance_ : Instance) (code : String) (seq : ℕ) (origin : Option Write)
    (row : Option FeatureFlag) : Instance :=
  let read := if seq ≠ instance_.writeSeq then instance_
    else apply instance_ code (row.map toOverride)
  release read code origin

/-- The answer of a save. -/
def onSaved (instance_ : Instance) (code : String) (enabled : Bool) (now : Time) : Instance :=
  let ended := instance_.noteWrite
  let stored := ended.store code (some (toOverride (savedFlag code enabled now)))
  (stored.dropFailures code).dropProbe code

/-- Which step is taken. A call is of the instance that it was begun on. -/
inductive Action where
  | admitted (server : ℕ) (code : String) (clock : Clock)
  | released (server : ℕ) (code : String)
  | succeeded (call server : ℕ) (code : String) (clock : Clock)
  | failed (call server : ℕ) (code : String) (clock : Clock)
  | switched (call server : ℕ) (code : String) (enabled : Bool) (now : Time)
  | notified (call server : ℕ) (code : String)
  | notifiedAll (call server : ℕ)
  /-- The database executes the next statement of a call. -/
  | executed (call : ℕ)
  /-- The instance goes on with the answer. -/
  | resumed (call : ℕ)
  /-- The statement fails, or its answer is lost. -/
  | broke (call : ℕ)

/-- Begin a call of an instance. -/
def System.begin (system : System) (call server : ℕ) (begun : Option Stage × Instance) :
    Option System :=
  match system.calls call with
  | some _ => none
  | none => some (system.goes call server begun.1 begun.2)

/-- One step of the system. -/
def next (system : System) : Action → Option System
  | .admitted server code clock =>
    let admitted := admitRequest (system.servers server) code clock
    some { system with servers := Function.update system.servers server admitted.2 }
  | .released server code =>
    let dropped := (system.servers server).dropProbe code
    some { system with servers := Function.update system.servers server dropped }
  | .succeeded call server code clock =>
    system.begin call server (recordSuccess (system.servers server) code clock)
  | .failed call server code clock =>
    system.begin call server (recordFailure (system.servers server) code clock)
  | .switched call server code enabled now =>
    system.begin call server (setEnabled (system.servers server) code enabled now)
  | .notified call server code =>
    let instance_ := system.servers server
    system.begin call server (some (.reading code instance_.writeSeq none), instance_)
  | .notifiedAll call server =>
    let instance_ := system.servers server
    system.begin call server (some (.readingAll instance_.writeSeq), instance_)
  | .executed call =>
    match system.calls call with
    | some ⟨server, .sent code write⟩ =>
      some { system.goes call server
          (some (.answered code write (execute system.flags code write).1))
          (system.servers server) with
        flags := (execute system.flags code write).2 }
    | some ⟨server, .selecting code enabled now⟩ =>
      some (system.goes call server
        (some (.selected code enabled now (system.flags.find? code))) (system.servers server))
    | some ⟨server, .selected code enabled now found⟩ =>
      (save system.flags found (savedFlag code enabled now)).map fun flags =>
        { system.goes call server (some (.saved code enabled now)) (system.servers server) with
          flags := flags }
    | some ⟨server, .reading code seq origin⟩ =>
      some (system.goes call server (some (.read code seq origin (system.flags.find? code)))
        (system.servers server))
    | some ⟨server, .readingAll seq⟩ =>
      some (system.goes call server (some (.readAll seq system.flags)) (system.servers server))
    | _ => none
  | .resumed call =>
    match system.calls call with
    | some ⟨server, .answered code write affected⟩ =>
      let resumed := onAnswer (system.servers server) code write affected
      some (system.goes call server resumed.1 resumed.2)
    | some ⟨server, .saved code enabled now⟩ =>
      some (system.goes call server none (onSaved (system.servers server) code enabled now))
    | some ⟨server, .read code seq origin row⟩ =>
      some (system.goes call server none (onRead (system.servers server) code seq origin row))
    | some ⟨server, .readAll seq rows⟩ =>
      let instance_ := system.servers server
      some (system.goes call server none
        (if seq ≠ instance_.writeSeq then instance_ else applyAll instance_ rows))
    | some ⟨server, .auditing code origin⟩ =>
      some (system.goes call server none (release (system.servers server) code (some origin)))
    | _ => none
  | .broke call =>
    match system.calls call with
    | some ⟨server, .sent code write⟩ | some ⟨server, .answered code write _⟩ =>
      let broken := onFailure (system.servers server).noteWrite code (some write)
      some (system.goes call server broken.1 broken.2)
    | some ⟨server, .selecting _ _ _⟩ | some ⟨server, .selected _ _ _ _⟩
    | some ⟨server, .saved _ _ _⟩ =>
      some (system.goes call server none (system.servers server).noteWrite)
    | some ⟨server, .reading code _ origin⟩ | some ⟨server, .read code _ origin _⟩ =>
      let broken := onFailure (system.servers server) code origin
      some (system.goes call server broken.1 broken.2)
    | some ⟨server, _⟩ => some (system.goes call server none (system.servers server))
    | none => none

/-- The systems that a sequence of steps leads to. -/
inductive Run (system : System) : List Action → System → Prop
  | nil : Run system [] system
  | concat {actions : List Action} {middle after : System} {action : Action}
      (hrun : Run system actions middle) (hnext : next middle action = some after) :
      Run system (actions ++ [action]) after

end Calls

section Manual

/-- A row that a person has disabled. -/
def DisabledManually (row : FeatureFlag) : Prop :=
  row.enabled = false ∧ row.disabledReason = some .manual

/-- The step in which the save of a person writes the row of a code. -/
def Saves (system : System) (code : String) (action : Action) : Prop :=
  ∃ call server enabled now found, action = .executed call ∧
    system.calls call = some ⟨server, .selected code enabled now found⟩

/-- A row that the breaker has disabled is not disabled by a person. -/
theorem DisabledManually.not_byCircuit {row : FeatureFlag} (h : DisabledManually row)
    (code : String) : ¬ByCircuit code row := by
  rintro ⟨-, -, hreason⟩
  rw [h.2] at hreason
  cases hreason

/-- A row that is enabled is not disabled by a person. -/
theorem DisabledManually.not_enabled {row : FeatureFlag} (h : DisabledManually row)
    (code : String) : ¬Enabled code row := by
  rintro ⟨-, henabled⟩
  rw [h.1] at henabled
  cases henabled

/-- No statement of the breaker changes a row that a person has disabled. -/
theorem execute_kept {flags : Flags} {code : String} {row : FeatureFlag}
    (hrow : flags.find? code = some row) (hmanual : DisabledManually row) (other : String)
    (write : Write) : (execute flags other write).2.find? code = some row := by
  cases write with
  | recover now =>
    have hupdated : (execute flags other (.recover now)).2 =
        flags.update (ByCircuit other) (recoveredRow now) fun _ => rfl := rfl
    rw [hupdated]
    exact Table.find?_update_of_unpicked hrow (hmanual.not_byCircuit other)
  | rearm now =>
    have hupdated : (execute flags other (.rearm now)).2 =
        flags.update (ByCircuit other) (rearmedRow now) fun _ => rfl := rfl
    rw [hupdated]
    exact Table.find?_update_of_unpicked hrow (hmanual.not_byCircuit other)
  | trip now =>
    cases hinsert : flags.insert (newTripped other now) with
    | some inserted =>
      -- the trip inserts the row of a code that has none, so of another
      have hne : (newTripped other now).code ≠ code := by
        rintro rfl
        rw [(Table.insert_eq_some hinsert).1] at hrow
        cases hrow
      have hinserted : (execute flags other (.trip now)).2 = inserted := by
        simp only [execute, hinsert]
      rw [hinserted, Table.find?_insert hinsert, if_neg hne]
      exact hrow
    | none =>
      have hupdated : (execute flags other (.trip now)).2 =
          flags.update (Enabled other) (trippedRow now) fun _ => rfl := by
        simp only [execute, hinsert]
      rw [hupdated]
      exact Table.find?_update_of_unpicked hrow (hmanual.not_enabled other)

/-- A save of another code leaves the row. -/
theorem save_kept {flags after : Flags} {code : String} {row : FeatureFlag}
    (hrow : flags.find? code = some row) {found : Option FeatureFlag} {saved : FeatureFlag}
    (hcode : saved.code ≠ code) (h : save flags found saved = some after) :
    after.find? code = some row := by
  unfold save at h
  cases found with
  | none =>
    rw [Table.find?_insert h, if_neg hcode]
    exact hrow
  | some read =>
    cases h
    refine Table.find?_update_of_unpicked hrow fun hpicked => ?_
    exact hcode (hpicked.symm.trans (Table.key_of_find? hrow))

/-- Beginning a call writes nothing. -/
theorem System.begin_flags {system after : System} {call server : ℕ}
    {begun : Option Stage × Instance} (h : system.begin call server begun = some after) :
    after.flags = system.flags := by
  unfold System.begin at h
  split at h <;> cases h
  rfl

/-- A step that is not the save of a person leaves a row that a person has disabled. -/
theorem next_kept {system after : System} {action : Action} {code : String}
    {row : FeatureFlag} (hrow : system.flags.find? code = some row)
    (hmanual : DisabledManually row) (hnext : next system action = some after)
    (hother : ¬Saves system code action) : after.flags.find? code = some row := by
  cases action with
  | admitted server other clock =>
    cases hnext
    exact hrow
  | released server other =>
    cases hnext
    exact hrow
  | succeeded call server other clock => exact System.begin_flags hnext ▸ hrow
  | failed call server other clock => exact System.begin_flags hnext ▸ hrow
  | switched call server other enabled now => exact System.begin_flags hnext ▸ hrow
  | notified call server other => exact System.begin_flags hnext ▸ hrow
  | notifiedAll call server => exact System.begin_flags hnext ▸ hrow
  | executed call =>
    simp only [next] at hnext
    split at hnext
    · next server other write hcall =>
      cases hnext
      exact execute_kept hrow hmanual other write
    · cases hnext
      exact hrow
    · next server other enabled now found hcall =>
      obtain ⟨flags, hsave, rfl⟩ := Option.map_eq_some_iff.mp hnext
      refine save_kept hrow (fun hcode => hother ?_) hsave
      subst hcode
      exact ⟨call, server, enabled, now, found, rfl, hcall⟩
    · cases hnext
      exact hrow
    · cases hnext
      exact hrow
    · cases hnext
  | resumed call =>
    simp only [next] at hnext
    split at hnext <;> cases hnext <;> exact hrow
  | broke call =>
    simp only [next] at hnext
    split at hnext <;> cases hnext <;> exact hrow

/-- An instance that still takes the module for opened by the breaker, with a probe out. -/
def staleInstance : Instance where
  config := ⟨fun _ => none, 60000, 5, 60000⟩
  stored code := if code = "assets" then some ⟨false, some .circuit, some 0⟩ else none
  failures _ := none
  probes code := if code = "assets" then some 60000 else none
  tripping _ := false
  writeSeq := 0

/-- The row of a module that a person has disabled. -/
def manualRow : FeatureFlag := savedFlag "assets" false 50000

/-- The row is disabled by a person, and the instance does not know it. -/
def staleSystem : System where
  flags := ⟨[manualRow], List.nodup_singleton _⟩
  servers _ := staleInstance
  calls _ := none

/-- A successful probe of an instance that does not know sends its statement all the same. -/
theorem staleProbe_run :
    ∃ after, Run staleSystem [.succeeded 1 0 "assets" fun _ => 90000, .executed 1, .resumed 1]
      after :=
  ⟨_, ((Run.nil.concat rfl).concat rfl).concat rfl⟩

end Manual

end InternalControl.FeatureFlags
