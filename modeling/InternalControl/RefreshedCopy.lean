import Mathlib.Logic.Function.Basic
import Mathlib.Logic.Relation
import Mathlib.Order.Defs.Unbundled
import Mathlib.Tactic.Common

/-!
# Copies that are refreshed

A source goes ahead, and calls refresh a copy of it: each reads the source and
later writes what it read. Every time the source goes ahead a call is owed that
takes it to the copy. When no call writes what it read before the copy shows
something later, the copy never goes back, and it shows the source once no call
is owed.
-/

namespace InternalControl.RefreshedCopy

variable {σ : Type}

/-- What was read of the source, and how many times it had gone ahead. -/
structure Reading (σ : Type) where
  version : ℕ
  picture : σ

/-- How far a call has come. -/
inductive Stage (σ : Type) where
  | starting
  | read (reading : Reading σ)
  | written

/-- The source, the copy, the calls in progress, and those that the copy still
waits for. -/
structure State (σ : Type) where
  source : Reading σ
  copy : Reading σ
  calls : ℕ → Option (Stage σ)
  owed : List ℕ

/-- A call that is not in progress and that nothing waits for. -/
def State.Fresh (state : State σ) (call : ℕ) : Prop :=
  state.calls call = none ∧ call ∉ state.owed

/-- Put a call in a stage. -/
def setCall (calls : ℕ → Option (Stage σ)) (call : ℕ) (stage : Option (Stage σ)) :
    ℕ → Option (Stage σ) := Function.update calls call stage

/-- A step, of a source that goes `ahead` and of writes that are `allowed`. -/
inductive Step (ahead : σ → σ → Prop) (allowed : State σ → Reading σ → Prop) (state : State σ) :
    State σ → Prop
  | advanced (picture : σ) (call : ℕ) (hahead : ahead state.source.picture picture)
      (hfresh : state.Fresh call) :
      Step ahead allowed state { state with
        source := ⟨state.source.version + 1, picture⟩
        calls := setCall state.calls call (some .starting)
        owed := call :: state.owed }
  | began (call : ℕ) (hfresh : state.Fresh call) :
      Step ahead allowed state
        { state with calls := setCall state.calls call (some .starting) }
  | read (call : ℕ) (hcall : state.calls call = some .starting) :
      Step ahead allowed state
        { state with calls := setCall state.calls call (some (.read state.source)) }
  | wrote (call : ℕ) (reading : Reading σ) (hcall : state.calls call = some (.read reading))
      (hallowed : allowed state reading) :
      Step ahead allowed state { state with
        copy := reading
        calls := setCall state.calls call (some .written)
        owed := state.owed.filter fun other => other ≠ call }
  | finished (call : ℕ) (hcall : state.calls call = some .written) :
      Step ahead allowed state { state with calls := setCall state.calls call none }
  | stopped (call : ℕ) :
      Step ahead allowed state { state with calls := setCall state.calls call none }

/-- What is written is not older than what the copy shows. -/
def Timely (state : State σ) (reading : Reading σ) : Prop :=
  state.copy.version ≤ reading.version

/-- A reading that is the source, the copy or that of a call. -/
def Known (state : State σ) (reading : Reading σ) : Prop :=
  reading = state.source ∨ reading = state.copy ∨
    ∃ call, state.calls call = some (.read reading)

/-- Of a later version, or the same. -/
def Reaches (ahead : σ → σ → Prop) (picture later : σ) : Prop :=
  picture = later ∨ ahead picture later

/-- The readings are of the course of the source, and when the copy does not
show it a call is owed that will. -/
structure Invariant (ahead : σ → σ → Prop) (state : State σ) : Prop where
  current : ∀ reading, Known state reading → reading.version ≤ state.source.version
  ordered : ∀ reading later, Known state reading → Known state later →
    reading.version < later.version → ahead reading.picture later.picture
  same : ∀ reading other, Known state reading → Known state other →
    reading.version = other.version → reading.picture = other.picture
  owed : state.copy.version = state.source.version ∨ ∃ call ∈ state.owed,
    ∀ reading, state.calls call = some (.read reading) →
      reading.version = state.source.version

section Steps

variable {ahead : σ → σ → Prop} {state after later : State σ}

@[simp] theorem setCall_self (calls : ℕ → Option (Stage σ)) (call : ℕ)
    (stage : Option (Stage σ)) : setCall calls call stage call = stage :=
  Function.update_self ..

theorem setCall_of_ne {calls : ℕ → Option (Stage σ)} {call other : ℕ} (h : other ≠ call)
    (stage : Option (Stage σ)) : setCall calls call stage other = calls other :=
  Function.update_of_ne h ..

/-- Moving a call to a stage without a reading adds no reading. -/
theorem known_of_setCall {calls : ℕ → Option (Stage σ)} {call : ℕ} (stage : Option (Stage σ))
    {reading : Reading σ} (hstage : stage ≠ some (.read reading))
    (h : ∃ other, setCall calls call stage other = some (.read reading)) :
    ∃ other, calls other = some (.read reading) := by
  obtain ⟨other, hother⟩ := h
  by_cases hsame : other = call
  · subst hsame
    rw [setCall_self] at hother
    exact absurd hother hstage
  · rw [setCall_of_ne hsame] at hother
    exact ⟨other, hother⟩

/-- The invariant of a state whose readings were all known and whose source is the same. -/
theorem Invariant.of_known (h : Invariant ahead state) (hsource : after.source = state.source)
    (hknown : ∀ reading, Known after reading → Known state reading)
    (howed : after.copy.version = after.source.version ∨ ∃ call ∈ after.owed,
      ∀ reading, after.calls call = some (.read reading) →
        reading.version = after.source.version) : Invariant ahead after where
  current reading hreading := hsource ▸ h.current reading (hknown reading hreading)
  ordered reading other hreading hother :=
    h.ordered reading other (hknown reading hreading) (hknown other hother)
  same reading other hreading hother :=
    h.same reading other (hknown reading hreading) (hknown other hother)
  owed := howed

/-- The source goes ahead, and a new call is owed. -/
theorem Invariant.advanced [IsTrans σ ahead] (h : Invariant ahead state) {picture : σ} {call : ℕ}
    (hahead : ahead state.source.picture picture) :
    Invariant ahead { state with
      source := ⟨state.source.version + 1, picture⟩
      calls := setCall state.calls call (some .starting)
      owed := call :: state.owed } := by
  -- a reading is the new source, or it was known and is of an earlier version
  have hcases : ∀ reading, Known { state with
      source := ⟨state.source.version + 1, picture⟩
      calls := setCall state.calls call (some .starting)
      owed := call :: state.owed } reading →
      reading = ⟨state.source.version + 1, picture⟩ ∨ Known state reading := by
    rintro reading (hsource | hcopy | hcall)
    · exact Or.inl hsource
    · exact Or.inr (Or.inr (Or.inl hcopy))
    · exact Or.inr (Or.inr (Or.inr (known_of_setCall (some .starting) nofun hcall)))
  have hbehind : ∀ reading, Known state reading → ahead reading.picture picture := by
    intro reading hreading
    rcases Nat.lt_or_eq_of_le (h.current reading hreading) with hlt | heq
    · exact IsTrans.trans _ _ _ (h.ordered reading state.source hreading (Or.inl rfl) hlt) hahead
    · rw [h.same reading state.source hreading (Or.inl rfl) heq]
      exact hahead
  constructor
  · intro reading hreading
    rcases hcases reading hreading with rfl | hreading
    · exact Nat.le_refl _
    · exact Nat.le_succ_of_le (h.current reading hreading)
  · intro reading other hreading hother hlt
    rcases hcases reading hreading with rfl | hreading
    · rcases hcases other hother with rfl | hother
      · exact absurd hlt (Nat.lt_irrefl _)
      · exact absurd hlt (Nat.not_lt.mpr (Nat.le_succ_of_le (h.current other hother)))
    · rcases hcases other hother with rfl | hother
      · exact hbehind reading hreading
      · exact h.ordered reading other hreading hother hlt
  · intro reading other hreading hother heq
    rcases hcases reading hreading with rfl | hreading
    · rcases hcases other hother with rfl | hother
      · rfl
      · exact absurd heq.symm (Nat.ne_of_lt (Nat.lt_succ_of_le (h.current other hother)))
    · rcases hcases other hother with rfl | hother
      · exact absurd heq (Nat.ne_of_lt (Nat.lt_succ_of_le (h.current reading hreading)))
      · exact h.same reading other hreading hother heq
  · refine Or.inr ⟨call, List.mem_cons_self, fun reading hreading => ?_⟩
    have hstarting : setCall state.calls call (some .starting) call = some (.read reading) := hreading
    rw [setCall_self] at hstarting
    cases hstarting

/-- A call that is owed is still on its way when another one moves. -/
theorem owed_of_setCall {call : ℕ} (stage : Option (Stage σ))
    (hstage : ∀ reading, stage = some (.read reading) → reading.version = state.source.version)
    (h : state.copy.version = state.source.version ∨ ∃ call ∈ state.owed,
      ∀ reading, state.calls call = some (.read reading) →
        reading.version = state.source.version) :
    state.copy.version = state.source.version ∨ ∃ other ∈ state.owed,
      ∀ reading, setCall state.calls call stage other = some (.read reading) →
        reading.version = state.source.version := by
  refine h.imp_right fun ⟨owed, howed, hreads⟩ => ⟨owed, howed, fun reading hreading => ?_⟩
  by_cases hsame : owed = call
  · subst hsame
    rw [setCall_self] at hreading
    exact hstage reading hreading
  · rw [setCall_of_ne hsame] at hreading
    exact hreads reading hreading

/-- A step whose writes are timely keeps the invariant. -/
theorem Invariant.step [IsTrans σ ahead] (h : Invariant ahead state)
    (hstep : Step ahead Timely state after) : Invariant ahead after := by
  cases hstep with
  | advanced picture call hahead _ => exact h.advanced hahead
  | began call _ =>
    refine h.of_known rfl ?_ (owed_of_setCall (some .starting) nofun h.owed)
    exact fun reading hreading => hreading.imp_right (Or.imp_right (known_of_setCall (some .starting) nofun))
  | finished call _ =>
    refine h.of_known rfl ?_ (owed_of_setCall none nofun h.owed)
    exact fun reading hreading => hreading.imp_right (Or.imp_right (known_of_setCall none nofun))
  | stopped call =>
    refine h.of_known rfl ?_ (owed_of_setCall none nofun h.owed)
    exact fun reading hreading => hreading.imp_right (Or.imp_right (known_of_setCall none nofun))
  | read call _ =>
    refine h.of_known rfl ?_ (owed_of_setCall (some (.read state.source)) ?_ h.owed)
    · rintro reading (hsource | hcopy | ⟨other, hother⟩)
      · exact Or.inl hsource
      · exact Or.inr (Or.inl hcopy)
      · dsimp only at hother
        by_cases hsame : other = call
        · subst hsame
          rw [setCall_self] at hother
          cases hother
          exact Or.inl rfl
        · rw [setCall_of_ne hsame] at hother
          exact Or.inr (Or.inr ⟨other, hother⟩)
    · rintro reading ⟨⟩
      rfl
  | wrote call reading hcall htimely =>
    have hreading : Known state reading := Or.inr (Or.inr ⟨call, hcall⟩)
    refine h.of_known rfl ?_ ?_
    · rintro other (hsource | rfl | hother)
      · exact Or.inl hsource
      · exact hreading
      · exact Or.inr (Or.inr (known_of_setCall (some .written) nofun hother))
    · rcases h.owed with hshown | ⟨owed, howed, hreads⟩
      · have hle := h.current reading hreading
        exact Or.inl (Nat.le_antisymm hle (hshown ▸ htimely))
      · by_cases hsame : owed = call
        · subst hsame
          exact Or.inl (hreads reading hcall)
        · refine Or.inr ⟨owed, List.mem_filter.mpr ⟨howed, by simpa using hsame⟩, ?_⟩
          intro other hother
          dsimp only at hother
          rw [setCall_of_ne hsame] at hother
          exact hreads other hother

/-- A step whose writes are timely leaves the copy where it was or takes it ahead. -/
theorem Step.reaches (h : Invariant ahead state) (hstep : Step ahead Timely state after) :
    Reaches ahead state.copy.picture after.copy.picture := by
  cases hstep with
  | wrote call reading hcall htimely =>
    have hreading : Known state reading := Or.inr (Or.inr ⟨call, hcall⟩)
    have hcopy : Known state state.copy := Or.inr (Or.inl rfl)
    rcases Nat.lt_or_eq_of_le htimely with hlt | heq
    · exact Or.inr (h.ordered state.copy reading hcopy hreading hlt)
    · exact Or.inl (h.same state.copy reading hcopy hreading heq)
  | _ => exact Or.inl rfl

theorem Reaches.trans [IsTrans σ ahead] {picture middle last : σ}
    (h : Reaches ahead picture middle) (hlast : Reaches ahead middle last) :
    Reaches ahead picture last := by
  rcases h with rfl | h
  · exact hlast
  · rcases hlast with rfl | hlast
    · exact Or.inr h
    · exact Or.inr (IsTrans.trans _ _ _ h hlast)

/-- Once no call is owed the copy shows the source. -/
theorem Invariant.copy_eq (h : Invariant ahead state) (howed : state.owed = []) :
    state.copy.picture = state.source.picture := by
  rcases h.owed with hshown | ⟨call, hcall, _⟩
  · exact h.same state.copy state.source (Or.inr (Or.inl rfl)) (Or.inl rfl) hshown
  · rw [howed] at hcall
    cases hcall

/-- What is not timely is behind the copy. -/
theorem Invariant.ahead_of_not_timely (h : Invariant ahead state) {call : ℕ}
    {reading : Reading σ} (hcall : state.calls call = some (.read reading))
    (htimely : ¬Timely state reading) : ahead reading.picture state.copy.picture :=
  h.ordered reading state.copy (Or.inr (Or.inr ⟨call, hcall⟩)) (Or.inr (Or.inl rfl))
    (Nat.lt_of_not_le htimely)

/-- A copy that shows the source, without calls. -/
theorem Invariant.start (hcopy : state.copy = state.source) (hcalls : ∀ call, state.calls call = none) :
    Invariant ahead state := by
  have hknown : ∀ reading, Known state reading → reading = state.source := by
    rintro reading (hsource | hshown | ⟨call, hcall⟩)
    · exact hsource
    · exact hshown.trans hcopy
    · rw [hcalls call] at hcall
      cases hcall
  constructor
  · intro reading hreading
    exact Nat.le_of_eq (congrArg Reading.version (hknown reading hreading))
  · intro reading later hreading hlater hlt
    rw [hknown reading hreading, hknown later hlater] at hlt
    exact absurd hlt (Nat.lt_irrefl _)
  · intro reading other hreading hother _
    rw [hknown reading hreading, hknown other hother]
  · exact Or.inl (congrArg Reading.version hcopy)

end Steps

end InternalControl.RefreshedCopy
