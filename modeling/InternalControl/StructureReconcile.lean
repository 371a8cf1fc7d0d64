import InternalControl.CodePrefix
import InternalControl.JsonText
import InternalControl.KeyedMap
import InternalControl.ParentMap

/-!
# Structure reconcile

The plan that puts active cost centres under the unit and the parent their
codes ask for, and links unit heads to their centres. The first loop reviews
each centre alone, the second takes back the proposals that close a cycle,
and the third reviews the head of each unit.
-/

namespace InternalControl.StructureReconcile

open CodePrefix Text

/-- How a centre's place is kept. -/
inductive ReconcileMode where
  | auto
  | manual
  deriving DecidableEq

/-- A unit as the reconcile sees it. -/
structure ReconcileUnit where
  id : RowId
  code : String
  name : String
  codePrefix : Option String
  isActive : Bool
  headCostCenterId : Option RowId
  headCostCenterCode : Option String
  deriving DecidableEq

/-- A cost centre as the reconcile sees it. -/
structure ReconcileCenter where
  id : RowId
  code : String
  name : String
  isActive : Bool
  hasMovement : Bool
  unitId : Option RowId
  parentId : Option RowId
  mode : ReconcileMode
  deriving DecidableEq

/-- The units and centres a plan is made from. -/
structure ReconcileState where
  units : List ReconcileUnit
  centers : List ReconcileCenter
  deriving DecidableEq

/-- Which centres a plan may touch. -/
inductive ReconcileScope where
  | all
  | partialTo (prefixes : List String) (unitIds centerIds : List RowId)

/-- What a plan says about a unit. -/
structure ReconcileUnitRef where
  id : RowId
  code : String
  name : String
  codePrefix : Option String
  deriving DecidableEq

/-- What a plan says about a centre. -/
structure ReconcileCenterRef where
  id : RowId
  externalCode : String
  name : String
  deriving DecidableEq

/-- A centre moves to the unit its code asks for. -/
structure ReconcileRelocation where
  center : ReconcileCenterRef
  fromUnit : Option ReconcileUnitRef
  toUnit : ReconcileUnitRef
  deriving DecidableEq

/-- A centre changes its parent. -/
structure ReconcileReparent where
  center : ReconcileCenterRef
  fromParent : Option ReconcileCenterRef
  toParent : Option ReconcileCenterRef
  deriving DecidableEq

/-- Why a head is linked. -/
inductive HeadLinkKind where
  | linked
  | recoded
  deriving DecidableEq

/-- A unit's head gets a centre, or follows its centre's new code. -/
structure ReconcileHeadLink where
  unit : ReconcileUnitRef
  kind : HeadLinkKind
  code : String
  previousCode : Option String
  center : ReconcileCenterRef
  deriving DecidableEq

/-- Why a head is unlinked. -/
inductive HeadUnlinkReason where
  | archived
  | missing
  deriving DecidableEq

/-- A unit's head loses its centre and keeps a code as pending. -/
structure ReconcileHeadUnlink where
  unit : ReconcileUnitRef
  reason : HeadUnlinkReason
  code : Option String
  center : Option ReconcileCenterRef
  deriving DecidableEq

/-- Why a centre is left as it is. -/
inductive ManualExceptionReason where
  | manual
  | cycle
  deriving DecidableEq

/-- A centre left as it is, with what the rules would ask for. -/
structure ReconcileManualException where
  center : ReconcileCenterRef
  reason : ManualExceptionReason
  currentUnit : Option ReconcileUnitRef
  expectedUnit : Option ReconcileUnitRef
  currentParent : Option ReconcileCenterRef
  expectedParent : Option ReconcileCenterRef
  deriving DecidableEq

/-- How many entries each list of a plan has. -/
structure ReconcileCounts where
  relocations : ℕ
  reparents : ℕ
  headLinks : ℕ
  headUnlinks : ℕ
  manualExceptions : ℕ
  deriving DecidableEq

/-- A reconcile plan. -/
structure ReconcilePlan where
  relocations : List ReconcileRelocation
  reparents : List ReconcileReparent
  headLinks : List ReconcileHeadLink
  headUnlinks : List ReconcileHeadUnlink
  manualExceptions : List ReconcileManualException
  counts : ReconcileCounts
  hash : String
  deriving DecidableEq

/-- MAX_DEPTH of the walk that looks for cycles. -/
def maxDepth : ℕ := 64

/-- The changes of a plan, exceptions left out. -/
def changeCount (counts : ReconcileCounts) : ℕ :=
  counts.relocations + counts.reparents + counts.headLinks + counts.headUnlinks

/-- The unit as plans name it. -/
def unitRef (unit : ReconcileUnit) : ReconcileUnitRef :=
  ⟨unit.id, unit.code, unit.name, unit.codePrefix⟩

/-- The centre as plans name it. -/
def centerRef (center : ReconcileCenter) : ReconcileCenterRef :=
  ⟨center.id, center.code, center.name⟩

/-- Whether a plan with this scope looks at the centre. -/
def inScope : ReconcileScope → ReconcileCenter → Bool
  | .all, _ => true
  | .partialTo prefixes unitIds centerIds, center =>
    prefixes.any (fun start => start ≠ "" && startsWith center.code start) ||
    center.unitId.any (fun id => id ∈ unitIds) ||
    center.id ∈ centerIds ||
    center.parentId.any (fun id => id ∈ centerIds)

/-! ### Lookups -/

/-- The unit with an id. -/
def unitById (state : ReconcileState) : KeyedMap RowId ReconcileUnit :=
  KeyedMap.index ReconcileUnit.id state.units

/-- The centre with an id. -/
def centerById (state : ReconcileState) : KeyedMap RowId ReconcileCenter :=
  KeyedMap.index ReconcileCenter.id state.centers

/-- The active units that have a prefix. -/
def prefixedUnits (state : ReconcileState) : List ReconcileUnit :=
  state.units.filter fun unit => unit.isActive && (present unit.codePrefix).isSome

/-- The active centres, by code. -/
def activeCenters (collation : Collation) (state : ReconcileState) : List ReconcileCenter :=
  (state.centers.filter ReconcileCenter.isActive).insertionSort fun left right =>
    collation.le left.code right.code = true

/-- The active centre with a code. -/
def activeByCode (collation : Collation) (state : ReconcileState) :
    KeyedMap String ReconcileCenter :=
  KeyedMap.index ReconcileCenter.code (activeCenters collation state)

/-- The reference to a unit given by an optional id. -/
def unitOf (state : ReconcileState) (id : Option RowId) : Option ReconcileUnitRef :=
  (id.bind (unitById state).get?).map unitRef

/-- The reference to a centre given by an optional id. -/
def centerOf (state : ReconcileState) (id : Option RowId) : Option ReconcileCenterRef :=
  (id.bind (centerById state).get?).map centerRef

/-! ### Review of one centre -/

/-- The unit the code of a centre asks for. -/
def expectedUnit (state : ReconcileState) (center : ReconcileCenter) : Option ReconcileUnit :=
  resolveCenterUnit (fun unit => unit.codePrefix.getD "") center.code (prefixedUnits state)

/-- The expected unit, when the centre is not in it. -/
def unitDiffers (state : ReconcileState) (center : ReconcileCenter) : Option ReconcileUnit :=
  (expectedUnit state center).filter fun unit => some unit.id ≠ center.unitId

/-- The parent the code of a centre asks for. -/
def ruleId (collation : Collation) (state : ReconcileState) (center : ReconcileCenter) :
    Option RowId :=
  let rule := resolveCenterParent center.code fun code =>
    code ≠ center.code && (activeByCode collation state).has code
  (present rule.parentCode).bind fun code =>
    ((activeByCode collation state).get? code).map ReconcileCenter.id

/-- The rule asks for no parent and the current one is a grouping above the centre by code. -/
def groupingAncestor (state : ReconcileState) (center : ReconcileCenter)
    (rule : Option RowId) : Bool :=
  rule.isNone &&
    (center.parentId.bind (centerById state).get?).any fun current =>
      current.isActive && !current.hasMovement &&
        (parentCandidates center.code).any fun candidate => candidate.code = current.code

/-- The parent of the rule, when the centre has to change to it. -/
def parentDiffers (collation : Collation) (state : ReconcileState) (center : ReconcileCenter) :
    Option (Option RowId) :=
  if isDetailCode center.code then
    let rule := ruleId collation state center
    if rule ≠ center.parentId ∧ groupingAncestor state center rule = false then some rule
    else none
  else none

/-- What the first loop adds to each list for one centre. -/
structure CenterReview where
  relocation : Option ReconcileRelocation := none
  candidate : Option ReconcileReparent := none
  manualException : Option ReconcileManualException := none

/-- The body of the first loop. -/
def reviewCenter (collation : Collation) (state : ReconcileState) (scope : ReconcileScope)
    (center : ReconcileCenter) : CenterReview :=
  if !inScope scope center then {}
  else
    let unit := unitDiffers state center
    let parent := parentDiffers collation state center
    if unit.isNone && parent.isNone then {}
    else if center.mode = .manual then
      { manualException := some
          { center := centerRef center
            reason := .manual
            currentUnit := unitOf state center.unitId
            expectedUnit := ((expectedUnit state center).map unitRef).or (unitOf state center.unitId)
            currentParent := centerOf state center.parentId
            expectedParent := centerOf state (parent.getD center.parentId) } }
    else
      { relocation := unit.map fun expected =>
          ⟨centerRef center, unitOf state center.unitId, unitRef expected⟩
        candidate := parent.map fun rule =>
          ⟨centerRef center, centerOf state center.parentId, centerOf state rule⟩ }

/-- The reviews of the active centres, in code order. -/
def reviews (collation : Collation) (state : ReconcileState) (scope : ReconcileScope) :
    List CenterReview :=
  (activeCenters collation state).map (reviewCenter collation state scope)

/-- The proposed changes of parent. -/
def candidates (collation : Collation) (state : ReconcileState) (scope : ReconcileScope) :
    List ReconcileReparent :=
  (reviews collation state scope).filterMap CenterReview.candidate

/-! ### Cycles -/

/-- The parent of each centre in the state. -/
def parentOf (state : ReconcileState) (id : RowId) : Option RowId :=
  ((centerById state).get? id).bind ReconcileCenter.parentId

/-- The parents with every proposal set. -/
def proposedParents (parents : RowId → Option RowId) :
    List ReconcileReparent → RowId → Option RowId
  | [] => parents
  | reparent :: rest =>
    proposedParents
      (Function.update parents reparent.center.id (reparent.toParent.map ReconcileCenterRef.id)) rest

/-- The walk up from a centre meets the centre again. -/
def closesCycle (finalParent : RowId → Option RowId) (centerId : RowId) : Bool :=
  ParentMap.meetsWithin finalParent centerId maxDepth (finalParent centerId)

/-- The exception of a proposal that closes a cycle. -/
def cycleException (state : ReconcileState) (reparent : ReconcileReparent) :
    ReconcileManualException :=
  let unit := unitOf state (((centerById state).get? reparent.center.id).bind ReconcileCenter.unitId)
  { center := reparent.center
    reason := .cycle
    currentUnit := unit
    expectedUnit := unit
    currentParent := reparent.fromParent
    expectedParent := reparent.toParent }

/-- The second loop: the accepted proposals and those that close a cycle. -/
def acceptReparents (finalParent : RowId → Option RowId) :
    List ReconcileReparent → List ReconcileReparent × List ReconcileReparent
  | [] => ([], [])
  | reparent :: rest =>
    if reparent.toParent.isSome && closesCycle finalParent reparent.center.id then
      let (accepted, reverted) := acceptReparents
        (Function.update finalParent reparent.center.id
          (reparent.fromParent.map ReconcileCenterRef.id)) rest
      (accepted, reparent :: reverted)
    else
      let (accepted, reverted) := acceptReparents finalParent rest
      (reparent :: accepted, reverted)

/-- The outcome of the second loop on a state. -/
def settledReparents (collation : Collation) (state : ReconcileState) (scope : ReconcileScope) :
    List ReconcileReparent × List ReconcileReparent :=
  acceptReparents (proposedParents (parentOf state) (candidates collation state scope))
    (candidates collation state scope)

/-! ### Review of one unit's head -/

/-- What the third loop adds to each list for one unit. -/
structure HeadReview where
  link : Option ReconcileHeadLink := none
  unlink : Option ReconcileHeadUnlink := none

/-- The body of the third loop. -/
def reviewHead (collation : Collation) (state : ReconcileState) (unit : ReconcileUnit) :
    HeadReview :=
  if !unit.isActive then {}
  else
    match unit.headCostCenterId with
    | some headId =>
      match (centerById state).get? headId with
      | none =>
        { unlink := some ⟨unitRef unit, .missing, unit.headCostCenterCode, none⟩ }
      | some linked =>
        if !linked.isActive then
          { unlink := some ⟨unitRef unit, .archived,
              unit.headCostCenterCode.or (some linked.code), some (centerRef linked)⟩ }
        else if some linked.code ≠ unit.headCostCenterCode then
          { link := some ⟨unitRef unit, .recoded, linked.code, unit.headCostCenterCode,
              centerRef linked⟩ }
        else {}
    | none =>
      match (present unit.headCostCenterCode).bind (activeByCode collation state).get? with
      | some found =>
        { link := some ⟨unitRef unit, .linked, found.code, unit.headCostCenterCode,
            centerRef found⟩ }
      | none => {}

/-- The reviews of the units' heads, in code order. -/
def headReviews (collation : Collation) (state : ReconcileState) : List HeadReview :=
  (state.units.insertionSort fun left right => collation.le left.code right.code = true).map
    (reviewHead collation state)

/-! ### The plan -/

/-- An optional id in a plan's digest. -/
def idValue (id : Option RowId) : JsValue := JsValue.ofOption (id.map RowId.text)

/-- The text a plan's hash is taken of. -/
def planDigestText (relocations : List ReconcileRelocation) (reparents : List ReconcileReparent)
    (headLinks : List ReconcileHeadLink) (headUnlinks : List ReconcileHeadUnlink) : String :=
  JsonText.stringify (.object
    [("relocations", .array (relocations.map fun item =>
        .array [.string item.center.id.text, idValue (item.fromUnit.map ReconcileUnitRef.id),
          .string item.toUnit.id.text])),
      ("reparents", .array (reparents.map fun item =>
        .array [.string item.center.id.text, idValue (item.fromParent.map ReconcileCenterRef.id),
          idValue (item.toParent.map ReconcileCenterRef.id)])),
      ("headLinks", .array (headLinks.map fun item =>
        .array [.string item.unit.id.text, .string item.center.id.text, .string item.code])),
      ("headUnlinks", .array (headUnlinks.map fun item =>
        .array [.string item.unit.id.text, JsValue.ofOption item.code]))])

/-- Plan the changes that bring a state to what its codes ask for. -/
def planStructureReconcile (collation : Collation) (sha256 : Sha256) (state : ReconcileState)
    (scope : ReconcileScope) : ReconcilePlan :=
  let relocations := (reviews collation state scope).filterMap CenterReview.relocation
  let settled := settledReparents collation state scope
  let reparents := settled.1
  let manualExceptions := (reviews collation state scope).filterMap CenterReview.manualException ++
    settled.2.map (cycleException state)
  let headLinks := (headReviews collation state).filterMap HeadReview.link
  let headUnlinks := (headReviews collation state).filterMap HeadReview.unlink
  { relocations, reparents, headLinks, headUnlinks, manualExceptions
    counts := ⟨relocations.length, reparents.length, headLinks.length, headUnlinks.length,
      manualExceptions.length⟩
    hash := sha256.hex (planDigestText relocations reparents headLinks headUnlinks) }

/-- The centre with a plan's relocation and change of parent made. -/
def applyToCenter (plan : ReconcilePlan) (center : ReconcileCenter) : ReconcileCenter :=
  let toUnit := KeyedMap.ofList (plan.relocations.map fun item => (item.center.id, item.toUnit.id))
  let toParent := KeyedMap.ofList (plan.reparents.map fun item =>
    (item.center.id, item.toParent.map ReconcileCenterRef.id))
  { center with
    unitId := (toUnit.get? center.id).or center.unitId
    parentId := (toParent.get? center.id).getD center.parentId }

/-- The unit with a plan's change of head made. -/
def applyToUnit (plan : ReconcilePlan) (unit : ReconcileUnit) : ReconcileUnit :=
  let links := KeyedMap.ofList (plan.headLinks.map fun item => (item.unit.id, item))
  let unlinks := KeyedMap.ofList (plan.headUnlinks.map fun item => (item.unit.id, item))
  match links.get? unit.id with
  | some link =>
    { unit with headCostCenterId := some link.center.id, headCostCenterCode := some link.code }
  | none =>
    match unlinks.get? unit.id with
    | some unlink =>
      { unit with headCostCenterId := none, headCostCenterCode := unlink.code }
    | none => unit

/-- The state with a plan's changes made. -/
def applyReconcilePlanInMemory (state : ReconcileState) (plan : ReconcilePlan) : ReconcileState :=
  { centers := state.centers.map (applyToCenter plan)
    units := state.units.map (applyToUnit plan) }

/-- Ids and active codes tell units and centres apart, and parents exist. -/
structure WellFormed (state : ReconcileState) : Prop where
  /-- No two units share an id. -/
  unitIds : (state.units.map ReconcileUnit.id).Nodup
  /-- No two centres share an id. -/
  centerIds : (state.centers.map ReconcileCenter.id).Nodup
  /-- No two active centres share a code. -/
  activeCodes : ((state.centers.filter ReconcileCenter.isActive).map ReconcileCenter.code).Nodup

/-- Every parent is a centre of the state. -/
def ParentsExist (state : ReconcileState) : Prop :=
  ∀ center ∈ state.centers, ∀ parent, center.parentId = some parent →
    (centerById state).has parent = true

end InternalControl.StructureReconcile
