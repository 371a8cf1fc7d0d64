import InternalControl.Fallible
import InternalControl.JsonText
import InternalControl.KeyedMap
import InternalControl.OrgChartTypes

/-!
# Separation of signers

The person for each slot of a record, with the substitutes that a request asks
for. Persons are compared by the text of their identifier as the request has it,
so two spellings of one identifier count as two persons.
-/

namespace InternalControl.SignerSeparation

open Fallible

/-- Where the person of a slot comes from. -/
inductive SignerSource where
  | responsible
  | request
  deriving DecidableEq

/-- SignerSpec. -/
structure SignerSpec where
  order : ℕ
  role : String
  label : String
  source : SignerSource
  deriving DecidableEq

/-- SUBSTITUTABLE_ROLES, the roles of internal control. -/
def substitutableRoles : List String := ["AUDITA", "CONTROL_INTERNO"]

def substitutionReasonMin : ℕ := 3

def substitutionReasonMax : ℕ := 500

structure SignerSubstitution where
  personId : String
  reason : String
  deriving DecidableEq

/-- Who is replaced, and why. -/
structure Replacement where
  replacedPersonId : String
  reason : String
  deriving DecidableEq

structure ResolvedSigner where
  spec : SignerSpec
  personId : Option String
  substitution : Option Replacement
  deriving DecidableEq

/-- A slot with the person designated for it. -/
structure DesignatedSigner where
  spec : SignerSpec
  personId : Option String
  deriving DecidableEq

inductive ErrorCode where
  | documentSignerSubstituteInvalid
  | documentSignerDuplicated
  deriving DecidableEq

/-- ApiException, with its details by field. -/
structure SignerError where
  code : ErrorCode
  message : String
  details : List (String × String)
  deriving DecidableEq

/-- The refusal of a substitution. -/
def invalid {α : Type} (field message : String) : Except SignerError α :=
  .error ⟨.documentSignerSubstituteInvalid, message, [(field, message)]⟩

/-- What a request says about the signers. The roles are upper-case names, so each
record is read by its own keys. -/
structure SignerPayload where
  responsiblePersonId : Option String
  signers : Option (KeyedMap String String)
  signerSubstitutions : JsValue
  /-- No key occurs twice in an object. -/
  distinct : ∀ fields, signerSubstitutions = .object fields → (fields.map Prod.fst).Nodup

/-- A hexadecimal digit in either letter case. -/
def isHex (c : Char) : Bool :=
  c.isDigit || ('a' ≤ c && c ≤ 'f') || ('A' ≤ c && c ≤ 'F')

/-- UUID: groups of eight, four, four, four and twelve digits. -/
def isUuid (text : String) : Bool :=
  text.toList.length == 36 &&
    text.toList.zipIdx.all fun (c, i) => if i ∈ [8, 13, 18, 23] then c == '-' else isHex c

/-- ROLE. -/
def isRole (role : String) : Bool :=
  match role.toList with
  | [] => false
  | first :: rest =>
    first.isUpper && rest.length ≤ 39 && rest.all fun c => c.isUpper || c.isDigit || c == '_'

/-- Object.entries of an object that is not an array. -/
def objectEntries : JsValue → Option (List (String × JsValue))
  | .object fields => some fields
  | .date _ => some []
  | _ => none

/-- The text under a key, when it is one. -/
def textField (value : JsValue) (key : String) : Option String :=
  match value.field? key with
  | some (.string text) => some text
  | _ => none

/-- One entry of the substitutions that were asked for. -/
def normalizeEntry (result : KeyedMap String SignerSubstitution) (entry : String × JsValue) :
    Except SignerError (KeyedMap String SignerSubstitution) :=
  let (role, value) := entry
  let field := "signerSubstitutions." ++ Text.sliceTo role 40
  if !isRole role then invalid field "Ese turno no existe."
  else if (objectEntries value).isNone then invalid field "Indique la persona y el motivo."
  else
    match (textField value "personId").filter isUuid with
    | none => invalid (field ++ ".personId") "Elija la persona sustituta."
    | some personId =>
      let motive := ((textField value "reason").map OrgChart.trim).getD ""
      if Text.utf16Length motive < substitutionReasonMin ∨
          Text.utf16Length motive > substitutionReasonMax then
        invalid (field ++ ".reason") ("Escriba un motivo de " ++ toString substitutionReasonMin ++
          " a " ++ toString substitutionReasonMax ++ " caracteres.")
      else .ok (result.set role ⟨personId, motive⟩)

/-- The substitutions that were asked for, checked one by one. -/
def normalizeSubstitutions (raw : JsValue) :
    Except SignerError (KeyedMap String SignerSubstitution) :=
  match raw with
  | .undefined | .null => .ok KeyedMap.empty
  | raw =>
    match objectEntries raw with
    | none => invalid "signerSubstitutions" "Las sustituciones no son válidas."
    | some entries => entries.foldlM normalizeEntry KeyedMap.empty

/-- The person designated for a slot. -/
def designatedPerson (payload : SignerPayload) (spec : SignerSpec) : Option String :=
  if spec.source = .responsible then payload.responsiblePersonId
  else payload.signers.bind fun signers => signers.get? spec.role

def designatedSigners (specs : List SignerSpec) (payload : SignerPayload) :
    List DesignatedSigner :=
  specs.map fun spec => ⟨spec, designatedPerson payload spec⟩

/-- The slots of each person, in order of their first slot. -/
def slotsByPerson (signers : List DesignatedSigner) : KeyedMap String (List SignerSpec) :=
  signers.foldl
    (fun byPerson signer =>
      match Text.present signer.personId with
      | some person => byPerson.set person ((byPerson.get? person).getD [] ++ [signer.spec])
      | none => byPerson)
    KeyedMap.empty

/-- The persons with more than one slot. -/
def conflictsOf (signers : List DesignatedSigner) : List (String × List SignerSpec) :=
  (slotsByPerson signers).entries.filter fun conflict => 1 < conflict.2.length

def roleList (specs : List SignerSpec) : String := ", ".intercalate (specs.map SignerSpec.label)

/-- What a substitution must meet. -/
def checkSubstitution (designated : List DesignatedSigner) (ineligibleRoles : List String)
    (entry : String × SignerSubstitution) : Except SignerError Unit :=
  let (role, substitution) := entry
  let conflicted := (conflictsOf designated).map Prod.fst
  let field := "signerSubstitutions." ++ role
  match designated.find? fun item => item.spec.role = role with
  | none => invalid field ("El acta no tiene el turno " ++ role ++ ".")
  | some slot =>
    if role ∉ substitutableRoles then
      invalid field "Solo se sustituyen los turnos de Control Interno."
    else
      match Text.present slot.personId with
      | none => invalid field "Este turno no necesita sustituto."
      | some personId =>
        if personId ∉ conflicted ∧ role ∉ ineligibleRoles then
          invalid field "Este turno no necesita sustituto."
        else if substitution.personId = personId then
          invalid (field ++ ".personId") "El sustituto es la misma persona del turno."
        else .ok ()

/-- The signer of a slot: the substitute, or the designated person. -/
def resolvedSigner (substitutions : KeyedMap String SignerSubstitution) (item : DesignatedSigner) :
    ResolvedSigner :=
  match substitutions.get? item.spec.role, Text.present item.personId with
  | some substitution, some personId =>
    ⟨item.spec, some substitution.personId, some ⟨personId, substitution.reason⟩⟩
  | _, _ => ⟨item.spec, item.personId, none⟩

/-- A substitute must not sign in another slot. -/
def checkOtherSlot (resolved : List ResolvedSigner) (entry : ResolvedSigner × ℕ) :
    Except SignerError Unit :=
  let (signer, place) := entry
  if signer.substitution.isNone then .ok ()
  else
    match resolved.zipIdx.find? fun (other, place') =>
        place' ≠ place && other.personId = signer.personId with
    | some (other, _) =>
      invalid ("signerSubstitutions." ++ signer.spec.role ++ ".personId")
        ("El sustituto de " ++ signer.spec.label ++ " ya firma el acta como " ++
          other.spec.label ++ ".")
    | none => .ok ()

def ResolvedSigner.toDesignated (signer : ResolvedSigner) : DesignatedSigner :=
  ⟨signer.spec, signer.personId⟩

/-- The refusal of persons that still hold several slots. -/
def duplicated (remaining : List (String × List SignerSpec)) : SignerError where
  code := .documentSignerDuplicated
  message := " ".intercalate (remaining.map fun (_, taken) =>
    if taken.any fun spec => spec.role ∈ substitutableRoles then
      "La misma persona firma como " ++ roleList taken ++ ". Indique un sustituto para Control Interno."
    else "La misma persona firma como " ++ roleList taken ++ ". Cambie el firmante.")
  details := remaining.flatMap fun (_, taken) =>
    let substitutable := taken.filter fun spec => spec.role ∈ substitutableRoles
    (taken.map fun spec =>
      ("signers." ++ spec.role, "La misma persona firma como " ++ roleList taken ++ ".")) ++
    if substitutable.length > 0 then
      substitutable.map fun spec =>
        ("signerSubstitutions." ++ spec.role,
          "Indique un sustituto para " ++ spec.label ++ " y el motivo.")
    else [("signers", "Cambie el firmante de " ++ roleList taken ++ ".")]

/-- The signers of a record, or why they cannot sign it. -/
def resolveSigners (specs : List SignerSpec) (payload : SignerPayload)
    (ineligibleRoles : List String) : Except SignerError (List ResolvedSigner) := do
  let substitutions ← normalizeSubstitutions payload.signerSubstitutions
  let designated := designatedSigners specs payload
  substitutions.entries.forM (checkSubstitution designated ineligibleRoles)
  let resolved := designated.map (resolvedSigner substitutions)
  resolved.zipIdx.forM (checkOtherSlot resolved)
  let remaining := conflictsOf (resolved.map ResolvedSigner.toDesignated)
  if remaining ≠ [] then .error (duplicated remaining)
  else .ok resolved

/-! ### Persons and their slots -/

/-- The slots of a person after some signers more. -/
theorem get?_slotsByPerson_foldl (signers : List DesignatedSigner)
    (byPerson : KeyedMap String (List SignerSpec)) {person : String} (hperson : person ≠ "") :
    ((signers.foldl
        (fun byPerson signer =>
          match Text.present signer.personId with
          | some person => byPerson.set person ((byPerson.get? person).getD [] ++ [signer.spec])
          | none => byPerson)
        byPerson).get? person).getD [] =
      (byPerson.get? person).getD [] ++
        (signers.filter fun signer => signer.personId = some person).map DesignatedSigner.spec := by
  induction signers generalizing byPerson with
  | nil => simp
  | cons signer rest ih =>
    rw [List.foldl_cons, ih]
    cases hpresent : Text.present signer.personId with
    | none =>
      have hother : signer.personId ≠ some person := by
        intro h
        have hsome := Text.present_eq_some.mpr ⟨h, hperson⟩
        rw [hpresent] at hsome
        cases hsome
      rw [List.filter_cons_of_neg (by simpa using hother)]
    | some other =>
      have hid := (Text.present_eq_some.mp hpresent).1
      by_cases heq : other = person
      · subst heq
        rw [KeyedMap.get?_set_self, List.filter_cons_of_pos (by simpa using hid)]
        simp
      · rw [KeyedMap.get?_set_of_ne _ _ (Ne.symm heq),
          List.filter_cons_of_neg (by rw [hid]; simpa using heq)]

theorem get?_slotsByPerson (signers : List DesignatedSigner) {person : String}
    (hperson : person ≠ "") :
    ((slotsByPerson signers).get? person).getD [] =
      (signers.filter fun signer => signer.personId = some person).map DesignatedSigner.spec := by
  rw [slotsByPerson, get?_slotsByPerson_foldl signers _ hperson]
  rfl

/-- A person in conflict has the slots of the map, more than one. -/
theorem mem_conflictsOf {signers : List DesignatedSigner} {person : String} {slots : List SignerSpec} :
    (person, slots) ∈ conflictsOf signers ↔
      (slotsByPerson signers).get? person = some slots ∧ 1 < slots.length := by
  rw [conflictsOf, List.mem_filter, KeyedMap.mem_entries_iff]
  simp

/-- Without conflicts no two slots have the same person. -/
theorem pairwise_of_conflictsOf_eq_nil {signers : List DesignatedSigner}
    (h : conflictsOf signers = []) :
    signers.Pairwise fun a b =>
      ∀ p, p ≠ "" → a.personId = some p → b.personId ≠ some p := by
  have hfew : ∀ p, p ≠ "" →
      (signers.filter fun signer => signer.personId = some p).length ≤ 1 := by
    intro p hp
    have hslots := get?_slotsByPerson signers hp
    cases hget : (slotsByPerson signers).get? p with
    | none =>
      have hlength := congrArg List.length hslots
      rw [hget, List.length_map] at hlength
      simp only [Option.getD_none, List.length_nil] at hlength
      omega
    | some slots =>
      by_contra hmany
      have hlength := congrArg List.length hslots
      rw [hget, List.length_map, Option.getD_some] at hlength
      have hmem : (p, slots) ∈ conflictsOf signers := mem_conflictsOf.mpr ⟨hget, by omega⟩
      rw [h] at hmem
      exact absurd hmem List.not_mem_nil
  clear h
  induction signers with
  | nil => exact List.Pairwise.nil
  | cons first rest ih =>
    refine List.pairwise_cons.mpr ⟨fun b hb p hp hfirst hsame => ?_, ih fun p hp => ?_⟩
    · have hlength := hfew p hp
      rw [List.filter_cons_of_pos (by simpa using hfirst), List.length_cons] at hlength
      have hmem : b ∈ rest.filter fun signer => signer.personId = some p :=
        List.mem_filter.mpr ⟨hb, by simpa using hsame⟩
      have hpos := List.length_pos_of_mem hmem
      omega
    · have hle := ((List.sublist_cons_self first rest).filter
        fun signer => decide (signer.personId = some p)).length_le
      have hlength := hfew p hp
      omega

/-- Whoever is in conflict is the person of a slot beside any one. -/
theorem exists_other_of_conflict {signers : List DesignatedSigner} {person : String}
    (hroles : (signers.map fun signer => signer.spec.role).Nodup) (hperson : person ≠ "")
    (h : person ∈ (conflictsOf signers).map Prod.fst) (role : String) :
    ∃ other ∈ signers, other.spec.role ≠ role ∧ other.personId = some person := by
  obtain ⟨⟨person, slots⟩, hconflict, rfl⟩ := List.mem_map.mp h
  obtain ⟨hget, hmany⟩ := mem_conflictsOf.mp hconflict
  have hslots := get?_slotsByPerson signers hperson
  rw [hget, Option.getD_some] at hslots
  rw [hslots, List.length_map] at hmany
  have hnodup := ((List.filter_sublist (p := fun signer : DesignatedSigner =>
    decide (signer.personId = some person)) (l := signers)).map
      fun signer => signer.spec.role).nodup hroles
  have hmem : ∀ signer ∈ signers.filter (fun signer => decide (signer.personId = some person)),
      signer ∈ signers ∧ signer.personId = some person := by
    intro signer hsigner
    simpa using hsigner
  match hlist : signers.filter fun signer => decide (signer.personId = some person) with
  | [] => simp [hlist] at hmany
  | [_] => simp [hlist] at hmany
  | a :: b :: rest =>
    rw [hlist] at hnodup hmem
    have hne : a.spec.role ≠ b.spec.role := fun heq =>
      (List.nodup_cons.mp hnodup).1 (List.mem_map.mpr ⟨b, List.mem_cons_self, heq.symm⟩)
    by_cases ha : a.spec.role = role
    · have hb := hmem b (List.mem_cons_of_mem _ List.mem_cons_self)
      exact ⟨b, hb.1, fun hb' => hne (ha.trans hb'.symm), hb.2⟩
    · have hfirst := hmem a List.mem_cons_self
      exact ⟨a, hfirst.1, ha, hfirst.2⟩

/-! ### What was asked for -/

/-- The substitute that a request names for a role. -/
def substituteFor (payload : SignerPayload) (role : String) : Option String :=
  (payload.signerSubstitutions.field? role).bind fun value => textField value "personId"

/-- A substitution is in the request. -/
def Requested (payload : SignerPayload) (role : String) (value : JsValue) : Prop :=
  ∃ fields, payload.signerSubstitutions = .object fields ∧ (role, value) ∈ fields

/-- What an accepted entry says. -/
structure EntryAccepted (value : JsValue) (substitution : SignerSubstitution) : Prop where
  personId : textField value "personId" = some substitution.personId
  isUuid : isUuid substitution.personId = true
  /-- The reason is the trimmed text of the request. -/
  reason : ∃ text, textField value "reason" = some text ∧ substitution.reason = OrgChart.trim text
  reason_min : 3 ≤ Text.utf16Length substitution.reason
  reason_max : Text.utf16Length substitution.reason ≤ 500

theorem normalizeEntry_eq_ok {result after : KeyedMap String SignerSubstitution} {role : String}
    {value : JsValue} (h : normalizeEntry result (role, value) = .ok after) :
    ∃ substitution, after = result.set role substitution ∧ EntryAccepted value substitution := by
  unfold normalizeEntry at h
  dsimp only at h
  split at h
  · cases h
  split at h
  · cases h
  cases hperson : (textField value "personId").filter isUuid with
  | none =>
    rw [hperson] at h
    cases h
  | some personId =>
    rw [hperson] at h
    dsimp only at h
    split at h
    · cases h
    · next hlength =>
      obtain ⟨hid, huuid⟩ := Option.filter_eq_some_iff.mp hperson
      simp only [substitutionReasonMin, substitutionReasonMax, not_or, not_lt] at hlength
      refine ⟨_, (Except.ok.inj h).symm, hid, huuid, ?_, hlength.1, hlength.2⟩
      cases hreason : textField value "reason" with
      | none =>
        -- an absent reason counts as the empty text, which is too short
        rw [hreason] at hlength
        exact absurd hlength.1 (by decide)
      | some text => exact ⟨text, rfl, rfl⟩

/-- The entries accepted so far, beside those before. -/
theorem foldlM_normalizeEntry {fields : List (String × JsValue)}
    {before after : KeyedMap String SignerSubstitution} (hnodup : (fields.map Prod.fst).Nodup)
    (h : fields.foldlM normalizeEntry before = .ok after) (role : String) :
    (∀ value, (role, value) ∈ fields →
      ∃ substitution, after.get? role = some substitution ∧ EntryAccepted value substitution) ∧
      (role ∉ fields.map Prod.fst → after.get? role = before.get? role) := by
  induction fields generalizing before with
  | nil =>
    cases h
    exact ⟨fun _ hvalue => absurd hvalue List.not_mem_nil, fun _ => rfl⟩
  | cons entry rest ih =>
    obtain ⟨role', value'⟩ := entry
    rw [List.foldlM_cons] at h
    obtain ⟨next, hnext, hrest⟩ := bind_eq_ok h
    obtain ⟨substitution, rfl, haccepted⟩ := normalizeEntry_eq_ok hnext
    rw [List.map_cons, List.nodup_cons] at hnodup
    obtain ⟨hlater, hother⟩ := ih hnodup.2 hrest
    refine ⟨fun value hvalue => ?_, fun hnot => ?_⟩
    · rcases List.mem_cons.mp hvalue with heq | hvalue
      · obtain ⟨rfl, rfl⟩ := Prod.mk.inj heq
        refine ⟨substitution, ?_, haccepted⟩
        rw [hother hnodup.1, KeyedMap.get?_set_self]
      · exact hlater value hvalue
    · rw [List.map_cons, List.mem_cons, not_or] at hnot
      rw [hother hnot.2, KeyedMap.get?_set_of_ne _ _ hnot.1]

section Normalized

variable {payload : SignerPayload} {substitutions : KeyedMap String SignerSubstitution}

/-- Accepted substitutions are the entries of an object. -/
theorem normalizeSubstitutions_eq_ok {raw : JsValue} (h : normalizeSubstitutions raw = .ok substitutions) :
    (∃ fields, raw = .object fields ∧ fields.foldlM normalizeEntry KeyedMap.empty = .ok substitutions) ∨
      (∀ fields, raw ≠ .object fields) ∧ substitutions = KeyedMap.empty := by
  cases raw with
  | object fields => exact Or.inl ⟨fields, rfl, h⟩
  | undefined => exact Or.inr ⟨fun _ heq => (nomatch heq), (Except.ok.inj h).symm⟩
  | null => exact Or.inr ⟨fun _ heq => (nomatch heq), (Except.ok.inj h).symm⟩
  | date iso => exact Or.inr ⟨fun _ heq => (nomatch heq), (Except.ok.inj h).symm⟩
  | bool value => cases h
  | number value => cases h
  | notFinite => cases h
  | string value => cases h
  | array items => cases h

/-- Every entry of the request is among the accepted ones. -/
theorem get?_of_requested (h : normalizeSubstitutions payload.signerSubstitutions = .ok substitutions)
    {role : String} {value : JsValue} (hrequested : Requested payload role value) :
    ∃ substitution, substitutions.get? role = some substitution ∧ EntryAccepted value substitution := by
  obtain ⟨fields, hfields, hmem⟩ := hrequested
  rcases normalizeSubstitutions_eq_ok h with ⟨fields', hfields', hrun⟩ | ⟨hnot, _⟩
  · rw [hfields] at hfields'
    cases hfields'
    exact (foldlM_normalizeEntry (payload.distinct fields hfields) hrun role).1 value hmem
  · exact absurd hfields (hnot fields)

/-- Nothing else is accepted, and the substitutes are those of the request. -/
theorem substituteFor_eq (h : normalizeSubstitutions payload.signerSubstitutions = .ok substitutions)
    (role : String) :
    substituteFor payload role = (substitutions.get? role).map SignerSubstitution.personId ∧
      ∀ substitution, substitutions.get? role = some substitution →
        ∃ value, Requested payload role value ∧ EntryAccepted value substitution := by
  rcases normalizeSubstitutions_eq_ok h with ⟨fields, hfields, hrun⟩ | ⟨hnot, rfl⟩
  · obtain ⟨hlater, hother⟩ := foldlM_normalizeEntry (payload.distinct fields hfields) hrun role
    unfold substituteFor
    rw [hfields]
    cases hfind : fields.find? fun entry => entry.1 = role with
    | none =>
      have hnot : role ∉ fields.map Prod.fst := by
        intro hrole
        obtain ⟨entry, hentry, heq⟩ := List.mem_map.mp hrole
        exact absurd (by simpa using heq) (List.find?_eq_none.mp hfind entry hentry)
      rw [hother hnot]
      simp [JsValue.field?, hfind]
    | some entry =>
      obtain ⟨role', value⟩ := entry
      have hrole : role' = role := by simpa using List.find?_some hfind
      subst hrole
      have hmem := List.mem_of_find?_eq_some hfind
      obtain ⟨substitution, hget, haccepted⟩ := hlater value hmem
      rw [hget]
      refine ⟨by simp [JsValue.field?, hfind, haccepted.personId], fun other hsome => ?_⟩
      cases hsome
      exact ⟨value, ⟨fields, hfields, hmem⟩, haccepted⟩
  · refine ⟨?_, fun _ hsome => by cases hsome⟩
    unfold substituteFor
    cases hraw : payload.signerSubstitutions with
    | object fields => exact absurd hraw (hnot fields)
    | _ => rfl

end Normalized

/-! ### Persons in either spelling -/

/-- Two texts are the same UUID, in whatever letter case. -/
def SamePerson (a b : String) : Prop := Text.asciiLower a = Text.asciiLower b

/-- The person whom a request makes sign in a slot. -/
def signingPerson (payload : SignerPayload) (spec : SignerSpec) : Option String :=
  (designatedPerson payload spec).map fun person => (substituteFor payload spec.role).getD person

/-- No person is spelled in two ways: neither two that sign, nor a substitute and
the one it stands in for. -/
structure OneSpelling (specs : List SignerSpec) (payload : SignerPayload) : Prop where
  signing : specs.Pairwise fun a b => ∀ p q, signingPerson payload a = some p →
    signingPerson payload b = some q → SamePerson p q → p = q
  substitute : ∀ spec ∈ specs, ∀ p q, designatedPerson payload spec = some p →
    substituteFor payload spec.role = some q → SamePerson q p → q = p

/-- Why a substitution stands: the slot, its person, the substitute and the reason. -/
structure Justified (specs : List SignerSpec) (payload : SignerPayload)
    (ineligibleRoles : List String) (role : String) (value : JsValue) : Prop where
  control : role ∈ substitutableRoles
  slot : ∃ spec ∈ specs, spec.role = role ∧ ∃ person, designatedPerson payload spec = some person ∧
    ((∃ other ∈ specs, other.role ≠ role ∧
        ∃ holder, designatedPerson payload other = some holder ∧ SamePerson holder person) ∨
      role ∈ ineligibleRoles) ∧
    ∃ substitute, textField value "personId" = some substitute ∧ ¬SamePerson substitute person
  reason : ∃ text, textField value "reason" = some text ∧
    3 ≤ Text.utf16Length (OrgChart.trim text) ∧ Text.utf16Length (OrgChart.trim text) ≤ 500

/-- The duties of the signers are apart. -/
structure Separated (specs : List SignerSpec) (payload : SignerPayload)
    (ineligibleRoles : List String) (resolved : List ResolvedSigner) : Prop where
  apart : resolved.Pairwise fun a b => ∀ p q, a.personId = some p → b.personId = some q →
    ¬SamePerson p q
  kept : List.Forall₂ (fun spec signer => signer.spec = spec ∧
    ((∀ value, ¬Requested payload spec.role value) →
      signer.personId = designatedPerson payload spec)) specs resolved
  justified : ∀ role value, Requested payload role value →
    Justified specs payload ineligibleRoles role value

section Resolved

variable {specs : List SignerSpec} {payload : SignerPayload} {ineligibleRoles : List String}
  {resolved : List ResolvedSigner}

/-- What a run that returns has checked. -/
theorem resolveSigners_eq_ok (h : resolveSigners specs payload ineligibleRoles = .ok resolved) :
    ∃ substitutions, normalizeSubstitutions payload.signerSubstitutions = .ok substitutions ∧
      resolved = (designatedSigners specs payload).map (resolvedSigner substitutions) ∧
      (∀ entry ∈ substitutions.entries,
        checkSubstitution (designatedSigners specs payload) ineligibleRoles entry = .ok ()) ∧
      conflictsOf (resolved.map ResolvedSigner.toDesignated) = [] := by
  unfold resolveSigners at h
  obtain ⟨substitutions, hsubstitutions, h⟩ := bind_eq_ok h
  obtain ⟨_, hchecked, h⟩ := bind_eq_ok h
  obtain ⟨_, _, h⟩ := bind_eq_ok h
  dsimp only at h
  split at h
  · cases h
  · next hremaining =>
    cases Except.ok.inj h
    exact ⟨substitutions, hsubstitutions, rfl, forM_eq_ok hchecked, not_not.mp hremaining⟩

/-- What a substitution that passed has met. -/
theorem checkSubstitution_eq_ok {designated : List DesignatedSigner} {role : String}
    {substitution : SignerSubstitution}
    (h : checkSubstitution designated ineligibleRoles (role, substitution) = .ok ()) :
    ∃ slot ∈ designated, slot.spec.role = role ∧ role ∈ substitutableRoles ∧
      ∃ person, slot.personId = some person ∧ person ≠ "" ∧
        (person ∈ (conflictsOf designated).map Prod.fst ∨ role ∈ ineligibleRoles) ∧
        substitution.personId ≠ person := by
  unfold checkSubstitution at h
  dsimp only at h
  cases hfind : designated.find? fun item => item.spec.role = role with
  | none =>
    rw [hfind] at h
    cases h
  | some slot =>
    rw [hfind] at h
    dsimp only at h
    split at h
    · cases h
    next hcontrol =>
    cases hperson : Text.present slot.personId with
    | none =>
      rw [hperson] at h
      cases h
    | some person =>
      rw [hperson] at h
      dsimp only at h
      split at h
      · cases h
      next hneeded =>
      split at h
      · cases h
      next hsame =>
      obtain ⟨hid, hne⟩ := Text.present_eq_some.mp hperson
      refine ⟨slot, List.mem_of_find?_eq_some hfind, by simpa using List.find?_some hfind,
        not_not.mp hcontrol, person, hid, hne, ?_, hsame⟩
      by_contra hnone
      rw [not_or] at hnone
      exact hneeded hnone

/-- The person of a resolved slot is the one whom the request makes sign. -/
theorem personId_resolvedSigner {substitutions : KeyedMap String SignerSubstitution} {spec : SignerSpec}
    (hsubstitutions : normalizeSubstitutions payload.signerSubstitutions = .ok substitutions)
    (huuid : ∀ person, designatedPerson payload spec = some person → isUuid person = true) :
    (resolvedSigner substitutions ⟨spec, designatedPerson payload spec⟩).personId =
      signingPerson payload spec := by
  have hsubstitute := (substituteFor_eq hsubstitutions spec.role).1
  unfold signingPerson resolvedSigner
  rw [hsubstitute]
  cases hperson : designatedPerson payload spec with
  | none => cases substitutions.get? spec.role <;> rfl
  | some person =>
    have hne : person ≠ "" := by
      rintro rfl
      exact absurd (huuid _ hperson) (by decide)
    have hpresent : Text.present (some person) = some person := Text.present_eq_some.mpr ⟨rfl, hne⟩
    cases hget : substitutions.get? spec.role <;> simp [hpresent]

/-- Whoever is made to sign has an identifier. -/
theorem isUuid_signingPerson {substitutions : KeyedMap String SignerSubstitution} {spec : SignerSpec}
    (hsubstitutions : normalizeSubstitutions payload.signerSubstitutions = .ok substitutions)
    (huuid : ∀ person, designatedPerson payload spec = some person → isUuid person = true)
    {signer : String} (h : signingPerson payload spec = some signer) : isUuid signer = true := by
  obtain ⟨hsubstitute, haccepted⟩ := substituteFor_eq hsubstitutions spec.role
  obtain ⟨person, hperson, hsigner⟩ := Option.map_eq_some_iff.mp h
  rw [hsubstitute] at hsigner
  cases hget : substitutions.get? spec.role with
  | none =>
    rw [hget] at hsigner
    exact hsigner ▸ huuid person hperson
  | some substitution =>
    obtain ⟨_, _, hentry⟩ := haccepted substitution hget
    rw [hget] at hsigner
    exact hsigner ▸ hentry.isUuid

/-- The slots that were resolved, one for each of the list. -/
theorem resolved_eq_map {substitutions : KeyedMap String SignerSubstitution}
    (h : resolved = (designatedSigners specs payload).map (resolvedSigner substitutions)) :
    resolved = specs.map fun spec =>
      resolvedSigner substitutions ⟨spec, designatedPerson payload spec⟩ := by
  rw [h, designatedSigners, List.map_map]
  rfl

/-- The requested substitutions stand, when no substitute is its designated person in
another spelling. -/
theorem justified_of_requested (hroles : (specs.map SignerSpec.role).Nodup)
    (h : resolveSigners specs payload ineligibleRoles = .ok resolved) (hone : OneSpelling specs payload)
    {role : String} {value : JsValue} (hrequested : Requested payload role value) :
    Justified specs payload ineligibleRoles role value := by
  obtain ⟨substitutions, hsubstitutions, _, hchecked, _⟩ := resolveSigners_eq_ok h
  obtain ⟨substitution, hget, haccepted⟩ := get?_of_requested hsubstitutions hrequested
  obtain ⟨text, htext, hreason⟩ := haccepted.reason
  obtain ⟨slot, hslot, hrole, hcontrol, person, hperson, hne, hneeded, hother⟩ :=
    checkSubstitution_eq_ok (hchecked _ ((KeyedMap.mem_entries_iff _ _ _).mpr hget))
  obtain ⟨spec, hspec, rfl⟩ := List.mem_map.mp hslot
  dsimp only at hrole hperson
  have hsubstitute : substituteFor payload role = some substitution.personId := by
    rw [(substituteFor_eq hsubstitutions role).1, hget]
    rfl
  refine ⟨hcontrol, ⟨spec, hspec, hrole, person, hperson, ?_, substitution.personId,
    haccepted.personId, fun hsame => hother ?_⟩, text, htext, ?_⟩
  · refine hneeded.imp_left fun hconflict => ?_
    have hdistinct : ((designatedSigners specs payload).map fun signer => signer.spec.role).Nodup := by
      rw [designatedSigners, List.map_map]
      exact hroles
    obtain ⟨other, hmem, hrole', hholder⟩ := exists_other_of_conflict hdistinct hne hconflict role
    obtain ⟨spec', hspec', rfl⟩ := List.mem_map.mp hmem
    exact ⟨spec', hspec', hrole', person, hholder, rfl⟩
  · exact hone.substitute spec hspec _ _ hperson (hrole ▸ hsubstitute) hsame
  · rw [← hreason]
    exact ⟨haccepted.reason_min, haccepted.reason_max⟩

/-- When the signers are resolved, their duties are apart exactly when the request
has no person in two spellings. -/
theorem resolveSigners_separated_iff (hroles : (specs.map SignerSpec.role).Nodup)
    (huuid : ∀ spec ∈ specs, ∀ person, designatedPerson payload spec = some person →
      isUuid person = true)
    (h : resolveSigners specs payload ineligibleRoles = .ok resolved) :
    Separated specs payload ineligibleRoles resolved ↔ OneSpelling specs payload := by
  obtain ⟨substitutions, hsubstitutions, hresolved, _, hconflicts⟩ := resolveSigners_eq_ok h
  have hmap := resolved_eq_map hresolved
  have hsigning : ∀ spec ∈ specs,
      (resolvedSigner substitutions ⟨spec, designatedPerson payload spec⟩).personId =
        signingPerson payload spec :=
    fun spec hspec => personId_resolvedSigner hsubstitutions (huuid spec hspec)
  constructor
  · intro hseparated
    refine ⟨?_, fun spec hspec p q hp hq hsame => ?_⟩
    · have hapart := hseparated.apart
      rw [hmap, List.pairwise_map] at hapart
      refine hapart.imp_of_mem fun {a b} ha hb hab p q hp hq hsame => ?_
      rw [hsigning a ha, hsigning b hb] at hab
      exact absurd hsame (hab p q hp hq)
    · rw [(substituteFor_eq hsubstitutions spec.role).1] at hq
      obtain ⟨substitution, hget, rfl⟩ := Option.map_eq_some_iff.mp hq
      obtain ⟨value, hrequested, haccepted⟩ :=
        (substituteFor_eq hsubstitutions spec.role).2 substitution hget
      obtain ⟨spec', hspec', hrole, person, hperson, _, substitute, hsubstitute, hdiffers⟩ :=
        (hseparated.justified _ _ hrequested).slot
      have hspecs : spec' = spec := List.inj_on_of_nodup_map hroles hspec' hspec hrole
      subst hspecs
      rw [hp] at hperson
      rw [haccepted.personId] at hsubstitute
      cases hperson
      cases hsubstitute
      exact absurd hsame hdiffers
  · intro hone
    refine ⟨?_, ?_, fun role value hrequested => justified_of_requested hroles h hone hrequested⟩
    · have htexts := pairwise_of_conflictsOf_eq_nil hconflicts
      rw [hmap, List.map_map, List.pairwise_map] at htexts
      rw [hmap, List.pairwise_map]
      refine (htexts.and hone.signing).imp_of_mem fun {a b} ha hb hab p q hp hq hsame => ?_
      obtain ⟨hdiffers, hspelling⟩ := hab
      rw [hsigning a ha] at hp
      rw [hsigning b hb] at hq
      have heq := hspelling p q hp hq hsame
      subst heq
      have hne : p ≠ "" := by
        rintro rfl
        exact absurd (isUuid_signingPerson hsubstitutions (huuid a ha) hp) (by decide)
      exact hdiffers p hne ((hsigning a ha).trans hp) ((hsigning b hb).trans hq)
    · rw [hmap, List.forall₂_map_right_iff]
      refine List.forall₂_same.mpr fun spec hspec => ⟨?_, fun hnone => ?_⟩
      · unfold resolvedSigner
        split <;> rfl
      · have hget : substitutions.get? spec.role = none := by
          cases hget : substitutions.get? spec.role with
          | none => rfl
          | some substitution =>
            obtain ⟨value, hrequested, _⟩ :=
              (substituteFor_eq hsubstitutions spec.role).2 substitution hget
            exact absurd hrequested (hnone value)
        rw [hsigning spec hspec, signingPerson, (substituteFor_eq hsubstitutions spec.role).1, hget]
        cases designatedPerson payload spec <;> rfl

end Resolved

/-! ### One person in two spellings -/

/-- A record that somebody receives and internal control signs. -/
def transferSlots : List SignerSpec :=
  [⟨1, "RECIBE", "Recibe", .responsible⟩, ⟨2, "CONTROL_INTERNO", "Control Interno", .request⟩]

/-- The receiver in lower case, and the person for internal control as given. -/
def transferPayload (control : String) : SignerPayload where
  responsiblePersonId := some "00000000-0000-4000-8000-00000000000a"
  signers := some (KeyedMap.empty.set "CONTROL_INTERNO" control)
  signerSubstitutions := .undefined
  distinct := fun _ h => nomatch h

/-- The same person receives and signs for internal control, in upper case. -/
theorem separation_misses_letter_case :
    isUuid "00000000-0000-4000-8000-00000000000A" = true ∧
      ∃ resolved, resolveSigners transferSlots
          (transferPayload "00000000-0000-4000-8000-00000000000A") [] = .ok resolved ∧
        ¬Separated transferSlots (transferPayload "00000000-0000-4000-8000-00000000000A") []
          resolved := by
  refine ⟨by decide +kernel,
    [⟨⟨1, "RECIBE", "Recibe", .responsible⟩, some "00000000-0000-4000-8000-00000000000a", none⟩,
      ⟨⟨2, "CONTROL_INTERNO", "Control Interno", .request⟩,
        some "00000000-0000-4000-8000-00000000000A", none⟩], by decide +kernel, fun h => ?_⟩
  have hpair := (List.pairwise_cons.mp h.apart).1 _ List.mem_cons_self _ _ rfl rfl
  exact hpair (by unfold SamePerson; decide +kernel)

theorem resolveSigners_separated_iff_transfer :
    Separated transferSlots (transferPayload "00000000-0000-4000-8000-00000000000b") []
        [⟨⟨1, "RECIBE", "Recibe", .responsible⟩, some "00000000-0000-4000-8000-00000000000a", none⟩,
          ⟨⟨2, "CONTROL_INTERNO", "Control Interno", .request⟩,
            some "00000000-0000-4000-8000-00000000000b", none⟩] ↔
      OneSpelling transferSlots (transferPayload "00000000-0000-4000-8000-00000000000b") :=
  resolveSigners_separated_iff (by decide +kernel)
    (fun spec hspec person hperson => by
      rcases List.mem_cons.mp hspec with rfl | hspec
      · cases hperson
        decide +kernel
      · rcases List.mem_cons.mp hspec with rfl | hspec
        · cases hperson
          decide +kernel
        · exact absurd hspec List.not_mem_nil)
    (by decide +kernel)

end InternalControl.SignerSeparation
