import InternalControl.RefreshTokens

/-!
# A refresh token is exchanged once

The statements on a family are the changes of a cell that shows its current
token, so what holds of such cells holds of every family in every run: a token
is exchanged at most once, and none is once the family is revoked. What the
calls in progress know is carried along as an invariant.
-/

namespace InternalControl.RefreshTokens

open TicketCell

section Refinement

/-- The cell that a family is: its current token, closed when it is revoked. -/
def cellOf (family : RefreshTokenFamily) : Cell Uuid where
  ticket := family.currentJti
  isClosed := family.status = .revoked

/-- The cell of a family in the store. -/
def shown (families : Families) (id : Uuid) : Option (Cell Uuid) :=
  (families.find? id).map cellOf

/-- What an event changes on the cell of a family. -/
def changeOf (id : Uuid) : Event → Option (Change Uuid)
  | .opened familyId jti => if familyId = id then some (.opened jti) else none
  | .rotated _ familyId expectedJti newJti =>
    if familyId = id then some (.exchanged expectedJti newJti) else none
  | .reused _ familyId _ _ => if familyId = id then some .closed else none
  | .revoked familyIds => if id ∈ familyIds then some .closed else none
  | .answered _ _ _ => none

/-- The changes of the cell of a family. -/
def changes (id : Uuid) (history : List Event) : List (Change Uuid) :=
  history.filterMap (changeOf id)

theorem changes_append (id : Uuid) (history : List Event) (event : Event) :
    changes id (history ++ [event]) = changes id history ++ (changeOf id event).toList := by
  unfold changes
  rw [List.filterMap_append]
  cases h : changeOf id event <;> simp [h]

/-- The events that follow a state of the families and lead to another. -/
def Follows (families after : Families) (event : Event) : Prop :=
  ∀ id, match changeOf id event with
    | none => shown after id = shown families id
    | some change => TicketCell.Step (shown families id) change (shown after id)

/-- The trace of a family goes on with an event that follows. -/
theorem Follows.trace {families after : Families} {event : Event} {history : List Event}
    (h : Follows families after event) {id : Uuid}
    (htrace : Trace (changes id history) (shown families id)) :
    Trace (changes id (history ++ [event])) (shown after id) := by
  have hid := h id
  rw [changes_append]
  cases hchange : changeOf id event with
  | none =>
    rw [hchange] at hid
    rw [Option.toList_none, List.append_nil, hid]
    exact htrace
  | some change =>
    rw [hchange] at hid
    exact htrace.step hid

/-- A rotation changes its row exactly when the family shows the token presented. -/
theorem rotate_fst {families : Families} {params : RotateRefreshTokenFamilyParams} :
    (rotate families params).1 = true ↔
      ∃ family, families.find? params.id = some family ∧
        Rotatable params.id params.expectedJti family := by
  unfold rotate
  dsimp only
  rw [decide_eq_true_eq]
  exact Table.affected_eq_one_iff fun row hrow => hrow.1

/-- A rotation that changed its row exchanged the token of the family. -/
theorem rotate_follows {families : Families} {params : RotateRefreshTokenFamilyParams}
    (call : ℕ) (h : (rotate families params).1 = true) :
    Follows families (rotate families params).2
      (.rotated call params.id params.expectedJti params.newJti) := by
  obtain ⟨family, hfound, hrotatable⟩ := rotate_fst.mp h
  intro id
  unfold rotate shown changeOf
  dsimp only
  by_cases hid : params.id = id
  · subst hid
    rw [if_pos rfl, Table.find?_update_of_picked hfound hrotatable, hfound]
    have hactive : decide (family.status = .revoked) = false := by simp [hrotatable.2.2]
    simp only [Option.map_some, cellOf, hactive, hrotatable.2.1]
    exact TicketCell.Step.exchanged _ _
  · rw [if_neg hid, Table.find?_update_of_not]
    intro row hrow hpicked
    exact hid (hpicked.1.symm.trans (Table.key_of_find? hrow))

/-- A rotation that changed no row changed no family. -/
theorem rotate_kept {families : Families} {params : RotateRefreshTokenFamilyParams}
    (h : (rotate families params).1 = false) (id : Uuid) :
    (rotate families params).2.find? id = families.find? id := by
  unfold rotate
  dsimp only
  rw [Table.find?_update_of_not]
  intro row hrow hpicked
  have hid : params.id = id := hpicked.1.symm.trans (Table.key_of_find? hrow)
  have htrue := rotate_fst.mpr ⟨row, hid ▸ hrow, hpicked⟩
  rw [h] at htrue
  cases htrue

section Revocations

variable {families : Families} {picked : RefreshTokenFamily → Prop} [DecidablePred picked]

/-- The families that are revoked are the active ones that are picked. -/
theorem mem_revokedWhere {id : Uuid} :
    id ∈ revokedWhere families picked ↔
      ∃ family, families.find? id = some family ∧ picked family ∧ family.status = .active := by
  unfold revokedWhere
  rw [List.mem_map]
  constructor
  · rintro ⟨family, hmem, rfl⟩
    rw [List.mem_filter, decide_eq_true_eq] at hmem
    exact ⟨family, Table.find?_of_mem hmem.1, hmem.2⟩
  · rintro ⟨family, hfound, hpicked⟩
    refine ⟨family, ?_, Table.key_of_find? hfound⟩
    rw [List.mem_filter, decide_eq_true_eq]
    exact ⟨Table.mem_of_find? hfound, hpicked⟩

/-- Revoking closes the families that are revoked. -/
theorem revokeWhere_follows (picked : RefreshTokenFamily → Prop) [DecidablePred picked]
    (revokedAt : Time) :
    Follows families (revokeWhere families picked revokedAt)
      (.revoked (revokedWhere families picked)) := by
  intro id
  unfold changeOf shown revokeWhere
  dsimp only
  by_cases hid : id ∈ revokedWhere families picked
  · obtain ⟨family, hfound, hpicked⟩ := mem_revokedWhere.mp hid
    rw [if_pos hid, Table.find?_update_of_picked hfound hpicked, hfound]
    exact TicketCell.Step.closed (cellOf family)
  · rw [if_neg hid, Table.find?_update_of_not]
    intro row hrow hpicked
    exact hid (mem_revokedWhere.mpr ⟨row, hrow, hpicked⟩)

/-- Revoking a family closes it, also when it was closed before. -/
theorem revoke_follows {id : Uuid} (hknown : (families.find? id).isSome) (revokedAt : Time)
    (call : ℕ) (jti : Uuid) (reason : ReuseReason) :
    Follows families (revoke families id revokedAt) (.reused call id jti reason) := by
  intro other
  unfold changeOf shown revoke revokeWhere
  dsimp only
  rw [Table.find?_update]
  by_cases hid : id = other
  · subst hid
    obtain ⟨family, hfound⟩ := Option.isSome_iff_exists.mp hknown
    rw [if_pos rfl, hfound]
    have hkey := Table.key_of_find? hfound
    have hclosed : cellOf (if family.id = id ∧ family.status = .active then
        { family with status := .revoked, revokedAt := some revokedAt } else family) =
        { cellOf family with isClosed := true } := by
      split
      · rfl
      · next hnot =>
        have hrevoked : family.status = .revoked := by
          cases hstatus : family.status with
          | active => exact absurd ⟨hkey, hstatus⟩ hnot
          | revoked => rfl
        simp [cellOf, hrevoked]
    rw [Option.map_some, Option.map_some, Option.map_some, hclosed]
    exact TicketCell.Step.closed (cellOf family)
  · rw [if_neg hid]
    cases hfound : families.find? other with
    | none => rfl
    | some row =>
      have hkey : row.id = other := Table.key_of_find? hfound
      have hnot : ¬(row.id = id ∧ row.status = .active) := fun h => hid (h.1.symm.trans hkey)
      rw [Option.map_some, if_neg hnot]

end Revocations

/-- A login opens a family. -/
theorem insert_follows {families after : Families} {family : RefreshTokenFamily}
    (h : families.insert family = some after) (hactive : family.status = .active) :
    Follows families after (.opened family.id family.currentJti) := by
  intro id
  unfold changeOf shown
  dsimp only
  rw [Table.find?_insert h id]
  by_cases hid : family.id = id
  · subst hid
    rw [if_pos rfl, if_pos rfl, (Table.insert_eq_some h).1]
    have hopen : cellOf family = ⟨family.currentJti, false⟩ := by simp [cellOf, hactive]
    rw [Option.map_some, Option.map_none, hopen]
    exact TicketCell.Step.opened _
  · rw [if_neg hid, if_neg hid]

end Refinement

section Calls

/-- The token that an event issues. -/
def Event.issuedJti : Event → Option Uuid
  | .opened _ jti => some jti
  | .rotated _ _ _ newJti => some newJti
  | _ => none

/-- The tokens issued to all families. -/
def issuedJtis (history : List Event) : List Uuid := history.filterMap Event.issuedJti

/-- The tokens issued to a family are among those issued. -/
theorem issued_changes_sublist (id : Uuid) (history : List Event) :
    List.Sublist (issued (changes id history)) (issuedJtis history) := by
  unfold issued changes issuedJtis
  induction history with
  | nil => exact List.Sublist.refl _
  | cons event rest ih =>
    have hissued : ∀ change jti, changeOf id event = some change →
        change.issued = some jti → event.issuedJti = some jti := by
      intro change jti hchange hjti
      unfold changeOf at hchange
      cases event with
      | opened familyId issued =>
        simp only at hchange
        split at hchange
        · cases hchange
          exact hjti
        · cases hchange
      | rotated call familyId expected new =>
        simp only at hchange
        split at hchange
        · cases hchange
          exact hjti
        · cases hchange
      | reused call familyId presented reason =>
        simp only at hchange
        split at hchange <;> cases hchange
        cases hjti
      | revoked familyIds =>
        simp only at hchange
        split at hchange <;> cases hchange
        cases hjti
      | answered call payload newJti => cases hchange
    have hskip : List.Sublist (rest.filterMap Event.issuedJti)
        ((event :: rest).filterMap Event.issuedJti) :=
      (List.sublist_cons_self event rest).filterMap _
    cases hchange : changeOf id event with
    | none =>
      rw [List.filterMap_cons_none hchange]
      exact ih.trans hskip
    | some change =>
      rw [List.filterMap_cons_some hchange]
      cases hjti : change.issued with
      | none =>
        rw [List.filterMap_cons_none hjti]
        exact ih.trans hskip
      | some jti =>
        rw [List.filterMap_cons_some hjti, List.filterMap_cons_some (hissued _ _ hchange hjti)]
        exact ih.cons_cons _

/-- The token that a call has drawn and not yet stored. -/
def Stage.held : Stage → Option Uuid
  | .rotating _ _ _ params => some params.newJti
  | _ => none

/-- What a call knows of the store. -/
def Informed (system : System) (call : ℕ) : Stage → Prop
  | .current payload family _ | .usable payload family _ _ | .reuse payload family _
  | .orphaned payload family _ =>
    family.id = payload.familyId ∧ (system.families.find? family.id).isSome
  | .rotating payload family _ params =>
    family.id = payload.familyId ∧ (system.families.find? family.id).isSome ∧
      params.id = family.id ∧ params.expectedJti = payload.jti
  | .rotated payload _ _ newJti =>
    .rotated call payload.familyId payload.jti newJti ∈ system.history
  | .verified _ | .finished _ => True

/-- What holds of every reachable system. -/
structure Sound (system : System) : Prop where
  /-- The events are the changes of every family. -/
  trace : ∀ id, Trace (changes id system.history) (shown system.families id)
  /-- The calls know what they have read. -/
  informed : ∀ call stage, system.calls call = some stage → Informed system call stage
  /-- A call answers with the token that it rotated to. -/
  answered : ∀ call payload jti, .answered call payload jti ∈ system.history →
    .rotated call payload.familyId payload.jti jti ∈ system.history
  /-- No token is issued twice. -/
  issuedOnce : (issuedJtis system.history).Nodup
  issuedDrawn : ∀ jti ∈ issuedJtis system.history, jti ∈ system.drawn
  /-- A token that a call holds is its own and not issued. -/
  heldDrawn : ∀ call stage jti, system.calls call = some stage → stage.held = some jti →
    jti ∈ system.drawn ∧ jti ∉ issuedJtis system.history
  heldApart : ∀ call other stage stage' jti, system.calls call = some stage →
    system.calls other = some stage' → stage.held = some jti → stage'.held = some jti →
    call = other

/-- Nothing has happened before the first login. -/
theorem Sound.start (users : List AppUser) : Sound (.start users) where
  trace _ := Trace.start
  informed _ _ h := by cases h
  answered _ _ _ h := by cases h
  issuedOnce := List.nodup_nil
  issuedDrawn _ h := by cases h
  heldDrawn _ _ _ h := by cases h
  heldApart _ _ _ _ _ h := by cases h

theorem System.at_calls {system : System} {call other : ℕ} {stage found : Stage}
    (h : (system.at call stage).calls other = some found) :
    (other = call ∧ found = stage) ∨ (other ≠ call ∧ system.calls other = some found) := by
  unfold System.at at h
  dsimp only at h
  rcases eq_or_ne other call with rfl | hne
  · rw [Function.update_self] at h
    exact .inl ⟨rfl, (Option.some.inj h).symm⟩
  · rw [Function.update_of_ne hne] at h
    exact .inr ⟨hne, h⟩

@[simp] theorem System.at_at (system : System) (call : ℕ) (first second : Stage) :
    (system.at call first).at call second = system.at call second := by
  unfold System.at
  simp

/-- A stage is what its call knows as long as the store has what it had. -/
theorem Informed.mono {system after : System} {call : ℕ} {stage : Stage}
    (h : Informed system call stage)
    (hknown : ∀ id, (system.families.find? id).isSome → (after.families.find? id).isSome)
    (hhistory : system.history ⊆ after.history) : Informed after call stage := by
  cases stage with
  | verified payload => trivial
  | current payload family now => exact ⟨h.1, hknown _ h.2⟩
  | usable payload family user now => exact ⟨h.1, hknown _ h.2⟩
  | rotating payload family user params => exact ⟨h.1, hknown _ h.2.1, h.2.2⟩
  | rotated payload family user newJti => exact hhistory h
  | reuse payload family reason => exact ⟨h.1, hknown _ h.2⟩
  | orphaned payload family now => exact ⟨h.1, hknown _ h.2⟩
  | finished result => trivial

/-- A call goes on to a stage that it knows. A token that it holds there is its own. -/
theorem Sound.at {system : System} (h : Sound system) (call : ℕ) (stage : Stage)
    (hinformed : Informed system call stage)
    (hheld : ∀ jti, stage.held = some jti → jti ∈ system.drawn ∧ jti ∉ issuedJtis system.history ∧
      ∀ other found, system.calls other = some found → found.held ≠ some jti) :
    Sound (system.at call stage) where
  trace := h.trace
  informed other found hother := by
    rcases System.at_calls hother with ⟨rfl, rfl⟩ | ⟨-, hfound⟩
    · exact hinformed.mono (fun _ => id) fun _ => id
    · exact (h.informed other found hfound).mono (fun _ => id) fun _ => id
  answered := h.answered
  issuedOnce := h.issuedOnce
  issuedDrawn := h.issuedDrawn
  heldDrawn other found jti hother hjti := by
    rcases System.at_calls hother with ⟨rfl, rfl⟩ | ⟨-, hfound⟩
    · exact ⟨(hheld jti hjti).1, (hheld jti hjti).2.1⟩
    · exact h.heldDrawn other found jti hfound hjti
  heldApart first second found found' jti hfirst hsecond hjti hjti' := by
    rcases System.at_calls hfirst with ⟨rfl, rfl⟩ | ⟨-, hfound⟩
    · rcases System.at_calls hsecond with ⟨rfl, rfl⟩ | ⟨-, hfound'⟩
      · rfl
      · exact absurd hjti' ((hheld jti hjti).2.2 second found' hfound')
    · rcases System.at_calls hsecond with ⟨rfl, rfl⟩ | ⟨-, hfound'⟩
      · exact absurd hjti ((hheld jti hjti').2.2 first found hfound)
      · exact h.heldApart first second found found' jti hfound hfound' hjti hjti'

/-- A call goes on to a stage in which it holds no token. -/
theorem Sound.at_plain {system : System} (h : Sound system) (call : ℕ) (stage : Stage)
    (hinformed : Informed system call stage) (hheld : stage.held = none) :
    Sound (system.at call stage) :=
  h.at call stage hinformed fun jti hjti => by
    rw [hheld] at hjti
    cases hjti

/-- More identifiers are drawn. -/
theorem Sound.draw {system : System} (h : Sound system) {drawn : List Uuid}
    (hdrawn : system.drawn ⊆ drawn) : Sound { system with drawn := drawn } where
  trace := h.trace
  informed call stage hcall := (h.informed call stage hcall).mono (fun _ => id) fun _ => id
  answered := h.answered
  issuedOnce := h.issuedOnce
  issuedDrawn jti hjti := hdrawn (h.issuedDrawn jti hjti)
  heldDrawn call stage jti hcall hjti :=
    ⟨hdrawn (h.heldDrawn call stage jti hcall hjti).1, (h.heldDrawn call stage jti hcall hjti).2⟩
  heldApart := h.heldApart

/-- A statement changes the families, and its event follows them. -/
theorem Sound.commit {system : System} (h : Sound system) {families : Families} {event : Event}
    (hfollows : Follows system.families families event)
    (hknown : ∀ id, (system.families.find? id).isSome → (families.find? id).isSome)
    (hanswered : ∀ call payload jti, event = .answered call payload jti →
      .rotated call payload.familyId payload.jti jti ∈ system.history)
    (hissued : ∀ jti, event.issuedJti = some jti → jti ∈ system.drawn ∧
      jti ∉ issuedJtis system.history ∧
      ∀ call stage, system.calls call = some stage → stage.held ≠ some jti) :
    Sound { system with families := families, history := system.history ++ [event] } := by
  have hmono : system.history ⊆ system.history ++ [event] := List.subset_append_left _ _
  have hjtis : issuedJtis (system.history ++ [event]) =
      issuedJtis system.history ++ event.issuedJti.toList := by
    unfold issuedJtis
    rw [List.filterMap_append]
    cases hjti : event.issuedJti <;> simp [hjti]
  have hmem : ∀ jti, jti ∈ issuedJtis (system.history ++ [event]) →
      jti ∈ issuedJtis system.history ∨ event.issuedJti = some jti := by
    intro jti hjti
    rw [hjtis, List.mem_append, Option.mem_toList] at hjti
    exact hjti
  constructor
  case trace => exact fun id => hfollows.trace (h.trace id)
  case informed => exact fun call stage hcall => (h.informed call stage hcall).mono hknown hmono
  case answered =>
    intro call payload jti hevent
    rcases List.mem_append.mp hevent with hbefore | hlast
    · exact hmono (h.answered call payload jti hbefore)
    · exact hmono (hanswered call payload jti (List.mem_singleton.mp hlast).symm)
  case issuedOnce =>
    dsimp only
    rw [hjtis]
    cases hjti : event.issuedJti with
    | none =>
      rw [Option.toList_none, List.append_nil]
      exact h.issuedOnce
    | some jti =>
      rw [Option.toList_some, List.nodup_append]
      refine ⟨h.issuedOnce, List.nodup_singleton _, ?_⟩
      rintro first hfirst second hsecond rfl
      exact (hissued jti hjti).2.1 (List.mem_singleton.mp hsecond ▸ hfirst)
  case issuedDrawn =>
    intro jti hjti
    rcases hmem jti hjti with hbefore | hnew
    · exact h.issuedDrawn jti hbefore
    · exact (hissued jti hnew).1
  case heldDrawn =>
    intro call stage jti hcall hjti
    have hbefore := h.heldDrawn call stage jti hcall hjti
    refine ⟨hbefore.1, fun hafter => ?_⟩
    rcases hmem jti hafter with hissuedBefore | hnew
    · exact hbefore.2 hissuedBefore
    · exact (hissued jti hnew).2.2 call stage hcall hjti
  case heldApart => exact h.heldApart

/-- An event that issues no token and answers no call. -/
theorem Sound.commit_plain {system : System} (h : Sound system) {families : Families}
    {event : Event} (hfollows : Follows system.families families event)
    (hknown : ∀ id, (system.families.find? id).isSome → (families.find? id).isSome)
    (hanswered : ∀ call payload jti, event ≠ .answered call payload jti)
    (hissued : event.issuedJti = none) :
    Sound { system with families := families, history := system.history ++ [event] } :=
  h.commit hfollows hknown
    (fun call payload jti hevent => absurd hevent (hanswered call payload jti))
    fun jti hjti => by
      rw [hissued] at hjti
      cases hjti

/-- A statement that changes no cell is no event. -/
theorem Sound.quiet {system : System} (h : Sound system) {families : Families}
    (hshown : ∀ id, shown families id = shown system.families id) :
    Sound { system with families := families } where
  trace id := by
    dsimp only
    rw [hshown id]
    exact h.trace id
  informed call stage hcall := by
    refine (h.informed call stage hcall).mono (fun id hid => ?_) fun _ => id
    have hsome := congrArg Option.isSome (hshown id)
    unfold shown at hsome
    rw [Option.isSome_map, Option.isSome_map] at hsome
    exact hsome.trans hid
  answered := h.answered
  issuedOnce := h.issuedOnce
  issuedDrawn := h.issuedDrawn
  heldDrawn := h.heldDrawn
  heldApart := h.heldApart

end Calls

section Steps

/-- A rotation keeps every family in the store. -/
theorem isSome_rotate {families : Families} (params : RotateRefreshTokenFamilyParams)
    (id : Uuid) (h : (families.find? id).isSome) :
    ((rotate families params).2.find? id).isSome := by
  unfold rotate
  rw [Table.find?_update, Option.isSome_map]
  exact h

/-- Revoking keeps every family in the store. -/
theorem isSome_revokeWhere {families : Families} (picked : RefreshTokenFamily → Prop)
    [DecidablePred picked] (revokedAt : Time) (id : Uuid) (h : (families.find? id).isSome) :
    ((revokeWhere families picked revokedAt).find? id).isSome := by
  unfold revokeWhere
  rw [Table.find?_update, Option.isSome_map]
  exact h

/-- The checks on a family that was found under the identifier of the token. -/
theorem informed_afterFamily {system : System} (call : ℕ) (payload : RefreshTokenPayload)
    (now : Time) :
    Informed system call (afterFamily payload now (system.families.find? payload.familyId)) ∧
      (afterFamily payload now (system.families.find? payload.familyId)).held = none := by
  cases hfound : system.families.find? payload.familyId with
  | none => exact ⟨trivial, rfl⟩
  | some family =>
    have hkey : family.id = payload.familyId := Table.key_of_find? hfound
    have hknown : family.id = payload.familyId ∧ (system.families.find? family.id).isSome := by
      refine ⟨hkey, ?_⟩
      rw [hkey, hfound]
      rfl
    unfold afterFamily
    dsimp only
    split
    · exact ⟨hknown, rfl⟩
    · split
      · exact ⟨hknown, rfl⟩
      · exact ⟨hknown, rfl⟩

/-- The checks on the user keep what the call knows of the family. -/
theorem informed_afterUser {system : System} (call : ℕ) {payload : RefreshTokenPayload}
    {family : RefreshTokenFamily} (now checkedAt : Time) (found : Option AppUser)
    (h : family.id = payload.familyId ∧ (system.families.find? family.id).isSome) :
    Informed system call (afterUser payload family now checkedAt found) ∧
      (afterUser payload family now checkedAt found).held = none := by
  cases found with
  | none => exact ⟨h, rfl⟩
  | some user =>
    unfold afterUser
    dsimp only
    cases assertAccountUsable user checkedAt with
    | error code => exact ⟨trivial, rfl⟩
    | ok _ => exact ⟨h, rfl⟩

/-- A rotation that goes through exchanges the token that the call presented. -/
theorem Sound.rotated {system : System} (h : Sound system) {call : ℕ}
    {payload : RefreshTokenPayload} {family : RefreshTokenFamily} {user : AppUser}
    {params : RotateRefreshTokenFamilyParams}
    (hcall : system.calls call = some (.rotating payload family user params)) :
    Sound { system.at call
        (afterRotate payload family user params.newJti (rotate system.families params).1) with
      families := (rotate system.families params).2
      history := if (rotate system.families params).1 then
          system.history ++ [.rotated call params.id params.expectedJti params.newJti]
        else system.history } := by
  have hknows : Informed system call (.rotating payload family user params) :=
    h.informed call _ hcall
  obtain ⟨hfamily, hsome, hid, hexpected⟩ := hknows
  -- the call lets go of the token that it holds before the statement issues it
  have hreleased : Sound (system.at call (.finished (.error .tokenExpired))) :=
    h.at_plain call _ trivial rfl
  cases hrotated : (rotate system.families params).1 with
  | true =>
    have hcommit := hreleased.commit (rotate_follows call hrotated)
      (isSome_rotate params) (fun _ _ _ hevent => by cases hevent)
      (fun jti hjti => by
        cases hjti
        refine ⟨(h.heldDrawn call _ _ hcall rfl).1, (h.heldDrawn call _ _ hcall rfl).2, ?_⟩
        intro other found hother hheld
        rcases System.at_calls hother with ⟨rfl, rfl⟩ | ⟨hne, hfound⟩
        · cases hheld
        · exact hne (h.heldApart other call found _ _ hfound hcall hheld rfl))
    have hevent : Event.rotated call payload.familyId payload.jti params.newJti ∈
        system.history ++ [.rotated call params.id params.expectedJti params.newJti] := by
      rw [hid, hfamily, hexpected]
      exact List.mem_append_right _ (List.mem_singleton_self _)
    have hnext := hcommit.at_plain call (.rotated payload family user params.newJti) hevent rfl
    simpa [System.at, afterRotate] using hnext
  | false =>
    have hquiet : Sound { system with families := (rotate system.families params).2 } :=
      h.quiet fun id => by
        unfold shown
        rw [rotate_kept hrotated]
    have hnext := hquiet.at_plain call (.reuse payload family .rotationRace)
      ⟨hfamily, by
        dsimp only
        rw [rotate_kept hrotated]
        exact hsome⟩ rfl
    simpa [System.at, afterRotate] using hnext

/-- Every step keeps the invariant. -/
theorem Sound.step {tokens : TokenService} {system after : System} (h : Sound system)
    (hstep : Step tokens system after) : Sound after := by
  cases hstep with
  | began call refreshToken hcall =>
    unfold begin
    split
    · exact h.at_plain call _ trivial rfl
    · exact h.at_plain call _ trivial rfl
  | familyRead call payload now hcall =>
    have hinformed := @informed_afterFamily system call payload now
    exact h.at_plain call _ hinformed.1 hinformed.2
  | userRead call payload family now checkedAt hcall =>
    have hknows : Informed system call (.current payload family now) := h.informed call _ hcall
    have hinformed := informed_afterUser call now checkedAt (system.findUser payload.sub) hknows
    exact h.at_plain call _ hinformed.1 hinformed.2
  | drew call payload family user now newJti hcall hfresh =>
    have hknows : Informed system call (.usable payload family user now) :=
      h.informed call _ hcall
    have hdrawn := h.draw (List.subset_cons_self newJti system.drawn)
    refine hdrawn.at call (afterDraw tokens payload family user now newJti)
      ⟨hknows.1, hknows.2, rfl, rfl⟩ ?_
    intro jti hjti
    cases hjti
    refine ⟨List.mem_cons_self .., fun hissued => hfresh (h.issuedDrawn _ hissued), ?_⟩
    intro other found hother hheld
    exact hfresh (h.heldDrawn other found _ hother hheld).1
  | rotated call payload family user params hcall => exact h.rotated hcall
  | reused call payload family reason revokedAt hcall =>
    have hknows : Informed system call (.reuse payload family reason) := h.informed call _ hcall
    have hcommit := h.commit_plain
      (revoke_follows hknows.2 revokedAt call payload.jti reason)
      (isSome_revokeWhere _ _) (fun _ _ _ hevent => by cases hevent) rfl
    exact hcommit.at_plain call (.finished (.error .tokenExpired)) trivial rfl
  | orphaned call payload family now hcall =>
    have hcommit := h.commit_plain
      (revokeWhere_follows (fun row => row.id = family.id) now)
      (isSome_revokeWhere _ _) (fun _ _ _ hevent => by cases hevent) rfl
    exact hcommit.at_plain call (.finished (.error .tokenExpired)) trivial rfl
  | answered call payload family user newJti roles scopes hcall =>
    have hknows : Informed system call (.rotated payload family user newJti) :=
      h.informed call _ hcall
    have hfollows : Follows system.families system.families (.answered call payload newJti) :=
      fun _ => rfl
    have hcommit := h.commit hfollows (fun _ hid => hid)
      (fun _ _ _ hevent => by
        cases hevent
        exact hknows)
      fun _ hjti => by cases hjti
    exact hcommit.at_plain call
      (.finished (.ok (issue tokens family user newJti roles scopes))) trivial rfl
  | stopped call code stage hcall hstage => exact h.at_plain call _ trivial rfl
  | loggedIn userId familyId jti expiresAt mfaVerifiedAt families hid hjti hinsert =>
    have hmore : system.drawn ⊆ jti :: familyId :: system.drawn := fun other hother =>
      List.mem_cons_of_mem _ (List.mem_cons_of_mem _ hother)
    have hdrawn := h.draw hmore
    have hnew : jti ∉ system.drawn := fun hmem => hjti (List.mem_cons_of_mem _ hmem)
    refine hdrawn.commit (insert_follows hinsert rfl) ?_ (fun _ _ _ hevent => by cases hevent) ?_
    · intro id hsome
      rw [Table.find?_insert hinsert]
      split
      · rfl
      · exact hsome
    · intro other hother
      cases hother
      refine ⟨List.mem_cons_self .., fun hissued => hnew (h.issuedDrawn _ hissued), ?_⟩
      intro call stage hcall hheld
      exact hnew (h.heldDrawn call stage _ hcall hheld).1
  | revokedAll userId revokedAt =>
    exact h.commit_plain (revokeWhere_follows _ revokedAt) (isSome_revokeWhere _ _)
      (fun _ _ _ hevent => by cases hevent) rfl
  | revokedSessions userId keepSessionId revokedAt =>
    exact h.commit_plain (revokeWhere_follows _ revokedAt) (isSome_revokeWhere _ _)
      (fun _ _ _ hevent => by cases hevent) rfl
  | mfaVerified userId sessionId verifiedAt =>
    refine h.quiet fun id => ?_
    unfold shown markSessionMfaVerified
    rw [Table.find?_update, Option.map_map]
    refine congrArg (fun cell => Option.map cell (system.families.find? id)) ?_
    funext family
    dsimp only [Function.comp_apply]
    split <;> rfl
  | usersChanged users => exact ⟨h.trace, fun call stage hcall =>
      (h.informed call stage hcall).mono (fun _ => id) fun _ => id, h.answered, h.issuedOnce,
      h.issuedDrawn, h.heldDrawn, h.heldApart⟩

/-- Every reachable system keeps the invariant. -/
theorem Reachable.sound {tokens : TokenService} {system : System}
    (h : Reachable tokens system) : Sound system := by
  obtain ⟨users, hrun⟩ := h
  induction hrun with
  | refl => exact Sound.start users
  | tail _ hstep ih => exact ih.step hstep

end Steps

section SingleUse

/-- The tokens of a family that were exchanged, in order. -/
def exchangedJtis (familyId : Uuid) (history : List Event) : List Uuid :=
  history.filterMap fun event =>
    match event with
    | .rotated _ family expectedJti _ => if family = familyId then some expectedJti else none
    | _ => none

/-- The tokens exchanged are those that the cell of the family spent. -/
theorem exchangedJtis_eq (familyId : Uuid) (history : List Event) :
    exchangedJtis familyId history = spent (changes familyId history) := by
  unfold exchangedJtis spent changes
  rw [List.filterMap_filterMap]
  refine List.filterMap_congr fun event _ => ?_
  unfold changeOf
  cases event with
  | opened family jti => dsimp only; split <;> rfl
  | rotated call family expected new => dsimp only; split <;> rfl
  | reused call family presented reason => dsimp only; split <;> rfl
  | revoked families => dsimp only; split <;> rfl
  | answered call payload newJti => rfl

/-- No token of a family is exchanged twice. -/
theorem Sound.nodup_exchanged {system : System} (h : Sound system) (familyId : Uuid) :
    (exchangedJtis familyId system.history).Nodup := by
  rw [exchangedJtis_eq]
  exact nodup_spent (h.trace familyId)
    (h.issuedOnce.sublist (issued_changes_sublist familyId system.history))

/-- A revoked family is not rotated. -/
theorem Sound.not_rotated_after {system : System} (h : Sound system) {familyId : Uuid}
    {before after : List Event} {event : Event}
    (hhistory : system.history = before ++ event :: after)
    (hclosed : changeOf familyId event = some .closed) (other : ℕ) (expected new : Uuid) :
    .rotated other familyId expected new ∉ after := by
  intro hmem
  have htrace := h.trace familyId
  have hsplit : changes familyId system.history =
      changes familyId before ++ .closed :: changes familyId after := by
    unfold changes
    rw [hhistory, List.filterMap_append, List.filterMap_cons_some hclosed]
  rw [hsplit] at htrace
  refine not_exchanged_of_closed htrace expected new ?_
  exact List.mem_filterMap.mpr ⟨_, hmem, if_pos rfl⟩

/-- Two entries that a partial map without repetitions sends to one value are the same. -/
theorem eq_of_nodup_filterMap {α β : Type} {f : α → Option β} {items : List α}
    (hnodup : (items.filterMap f).Nodup) {first second : α} {b : β} (hfirst : first ∈ items)
    (hsecond : second ∈ items) (hf : f first = some b) (hs : f second = some b) :
    first = second := by
  induction items with
  | nil => cases hfirst
  | cons item rest ih =>
    have hmem : ∀ other ∈ rest, f other = some b → b ∈ rest.filterMap f :=
      fun other hother hb => List.mem_filterMap.mpr ⟨other, hother, hb⟩
    rcases List.mem_cons.mp hfirst with rfl | hfirst'
    · rcases List.mem_cons.mp hsecond with rfl | hsecond'
      · rfl
      · rw [List.filterMap_cons_some hf, List.nodup_cons] at hnodup
        exact absurd (hmem second hsecond' hs) hnodup.1
    · rcases List.mem_cons.mp hsecond with rfl | hsecond'
      · rw [List.filterMap_cons_some hs, List.nodup_cons] at hnodup
        exact absurd (hmem first hfirst' hf) hnodup.1
      · have hsub := ((List.sublist_cons_self item rest).filterMap f).nodup hnodup
        exact ih hsub hfirst' hsecond'

/-- Two calls that answer with a new token for one token are the same call. -/
theorem Sound.answered_once {system : System} (h : Sound system) {call other : ℕ}
    {payload presented : RefreshTokenPayload} {jti jti' : Uuid}
    (hanswered : .answered call payload jti ∈ system.history)
    (hother : .answered other presented jti' ∈ system.history)
    (hfamily : presented.familyId = payload.familyId) (hjti : presented.jti = payload.jti) :
    call = other := by
  have hrotated := h.answered call payload jti hanswered
  have hrotated' := h.answered other presented jti' hother
  rw [hfamily, hjti] at hrotated'
  have heq := eq_of_nodup_filterMap (h.nodup_exchanged payload.familyId) hrotated hrotated'
    (if_pos rfl) (if_pos rfl)
  cases heq
  rfl

/-- In every run, whatever the order of the statements: each token of a family is exchanged
at most once, one call at most answers it with a new token, and once a call has revoked the
family because of the token it presented no rotation of the family goes through. -/
theorem jti_exchanged_once (tokens : TokenService) {system : System}
    (h : Reachable tokens system) (familyId : Uuid) :
    (exchangedJtis familyId system.history).Nodup ∧
      (∀ call other payload presented jti jti', .answered call payload jti ∈ system.history →
        .answered other presented jti' ∈ system.history →
        presented.familyId = payload.familyId → presented.jti = payload.jti → call = other) ∧
      ∀ before after call presentedJti reason,
        system.history = before ++ .reused call familyId presentedJti reason :: after →
        ∀ other expectedJti newJti, .rotated other familyId expectedJti newJti ∉ after := by
  have hsound := h.sound
  refine ⟨hsound.nodup_exchanged familyId, ?_, ?_⟩
  · intro call other payload presented jti jti' hanswered hother hfamily hjti
    exact hsound.answered_once hanswered hother hfamily hjti
  · intro before after call presentedJti reason hhistory other expectedJti newJti
    exact hsound.not_rotated_after hhistory (if_pos rfl) other expectedJti newJti

theorem Reachable.next {tokens : TokenService} {system after : System}
    (h : Reachable tokens system) (hstep : Step tokens system after) :
    Reachable tokens after := by
  obtain ⟨users, hrun⟩ := h
  exact ⟨users, hrun.tail hstep⟩

/-- A user with one session, and a service that signs the identifier of a token only. -/
def plainUser : AppUser where
  id := "user"
  personId := "person"
  username := "ana"
  status := .active
  mustChangePassword := false
  invitationExpiresAt := none

def plainTokens : TokenService where
  verifyRefreshToken token := some ⟨"user", "family", token⟩
  signRefreshToken _ _ jti := jti
  signAccessToken user := user.username
  refreshTokenLifetimeSeconds := 600
  accessTokenLifetimeSeconds := 60

/-- Two calls with one token that overlap at every step: one answers, the other loses the
rotation and revokes the family. -/
theorem overlapping_refreshes :
    ∃ system, Reachable plainTokens system ∧ system.history =
      [.opened "family" "first", .rotated 1 "family" "first" "second",
        .reused 2 "family" "first" .rotationRace,
        .answered 1 ⟨"user", "family", "first"⟩ "second"] := by
  have hopened : Reachable plainTokens (.start [plainUser]) := ⟨_, .refl⟩
  have hlogged := hopened.next (.loggedIn "user" "family" "first" 100 none
    ⟨[openedFamily "user" "family" "first" 100 none], by decide⟩ (by decide) (by decide) rfl)
  have hbegan := (hlogged.next (.began 1 (some "first") rfl)).next (.began 2 (some "first") rfl)
  have hread := (hbegan.next (.familyRead 1 _ 0 rfl)).next (.familyRead 2 _ 0 rfl)
  have husers := (hread.next (.userRead 1 _ _ 0 0 rfl)).next (.userRead 2 _ _ 0 0 rfl)
  have hdrew := (husers.next (.drew 1 _ _ plainUser 0 "second" rfl (by decide))).next
    (.drew 2 _ _ plainUser 0 "third" rfl (by decide))
  have hrotated := (hdrew.next (.rotated 1 _ _ plainUser _ rfl)).next
    (.rotated 2 _ _ plainUser _ rfl)
  have hreused := hrotated.next (.reused 2 _ _ .rotationRace 1 rfl)
  exact ⟨_, hreused.next (.answered 1 _ _ plainUser "second" [] [] rfl), rfl⟩

theorem jti_exchanged_once_overlapping :
    ∃ system, Reachable plainTokens system ∧
      exchangedJtis "family" system.history = ["first"] ∧
      .reused 2 "family" "first" .rotationRace ∈ system.history ∧
      (exchangedJtis "family" system.history).Nodup ∧
      ∀ before after call presentedJti reason,
        system.history = before ++ .reused call "family" presentedJti reason :: after →
        ∀ other expectedJti newJti, .rotated other "family" expectedJti newJti ∉ after := by
  obtain ⟨system, hreachable, hhistory⟩ := overlapping_refreshes
  have honce := jti_exchanged_once plainTokens hreachable "family"
  exact ⟨system, hreachable, by rw [hhistory]; rfl, by simp [hhistory],
    honce.1, honce.2.2⟩

end SingleUse

end InternalControl.RefreshTokens
