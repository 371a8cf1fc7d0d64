import Mathlib.Logic.Relation
import Mathlib.Tactic.Common

/-!
# Fallible computations

What a computation that may fail has done when it returns a value: one lemma
for each way such a computation is put together.
-/

namespace InternalControl.Fallible

variable {α β ε ε' : Type}

/-- A chain that returns has returned at its first link. -/
theorem bind_eq_ok {x : Except ε α} {f : α → Except ε β} {b : β} (h : x >>= f = .ok b) :
    ∃ a, x = .ok a ∧ f a = .ok b := by
  cases x with
  | error error => cases h
  | ok a => exact ⟨a, rfl, h⟩

/-- A check that passes has not found what it refuses. -/
theorem check_eq_ok {p : Prop} [Decidable p] {error : ε} {refused : α → Except ε β}
    {passed : Except ε β} {b : β}
    (h : (if p then Except.error error >>= refused else passed) = .ok b) :
    ¬p ∧ passed = .ok b := by
  split at h
  · cases h
  · next hp => exact ⟨hp, h⟩

/-- What every step of a loop keeps holds when the loop has returned. -/
theorem foldlM_invariant (kept : β → Prop) {step : β → α → Except ε β} {elements : List α}
    {start after : β} (hstart : kept start)
    (hstep : ∀ b, ∀ a ∈ elements, ∀ b', kept b → step b a = .ok b' → kept b')
    (h : elements.foldlM step start = .ok after) : kept after := by
  induction elements generalizing start with
  | nil =>
    cases h
    exact hstart
  | cons a rest ih =>
    rw [List.foldlM_cons] at h
    obtain ⟨next, hnext, hrest⟩ := bind_eq_ok h
    have hkept : kept next := hstep start a (List.mem_cons_self ..) next hstart hnext
    exact ih hkept (fun b a' ha' => hstep b a' (List.mem_cons_of_mem _ ha')) hrest

/-- A check of every element that passes has passed at each of them. -/
theorem forM_eq_ok {check : α → Except ε Unit} {elements : List α} {done : Unit}
    (h : elements.forM check = .ok done) : ∀ a ∈ elements, check a = .ok () := by
  induction elements with
  | nil => exact fun a ha => absurd ha List.not_mem_nil
  | cons first rest ih =>
    rw [List.forM_eq_forM, List.forM_cons] at h
    obtain ⟨_, hfirst, hrest⟩ := bind_eq_ok h
    intro a ha
    rcases List.mem_cons.mp ha with rfl | ha
    · exact hfirst
    · exact ih hrest a ha

/-- The state after a step that changes nothing when it is refused. -/
def attempt (step : α → Except ε α) (state : α) : α :=
  match step state with
  | .ok after => after
  | .error _ => state

/-- A step that goes through leads to the state after it. -/
theorem eq_ok_attempt (step : α → Except ε α) {state : α} (h : (step state).isOk = true) :
    step state = .ok (attempt step state) := by
  unfold attempt
  cases hstep : step state with
  | error error =>
    rw [hstep] at h
    cases h
  | ok after => rfl

/-- A run goes on with a step that goes through. -/
theorem run_attempt {related : α → α → Prop} {start state : α} (step : α → Except ε α)
    (hrun : Relation.ReflTransGen related start state)
    (hrelated : ∀ after, step state = .ok after → related state after)
    (h : (step state).isOk = true) :
    Relation.ReflTransGen related start (attempt step state) :=
  hrun.tail (hrelated _ (eq_ok_attempt step h))

/-- Statements run one after the other, outside a transaction: what ran before one that is
refused stays. -/
def runUntilRefused : List (α → Except ε α) → α → α
  | [], state => state
  | statement :: rest, state =>
    match statement state with
    | .ok after => runUntilRefused rest after
    | .error _ => state

/-- What every statement keeps holds wherever the statements stop. -/
theorem runUntilRefused_invariant (kept : α → Prop) {statements : List (α → Except ε α)}
    {state : α} (hstart : kept state)
    (hstep : ∀ statement ∈ statements, ∀ before after, kept before →
      statement before = .ok after → kept after) : kept (runUntilRefused statements state) := by
  induction statements generalizing state with
  | nil => exact hstart
  | cons statement rest ih =>
    rw [runUntilRefused]
    cases hrun : statement state with
    | error error => exact hstart
    | ok after =>
      have hnext : kept after := hstep statement (List.mem_cons_self ..) state after hstart hrun
      exact ih hnext fun other hother => hstep other (List.mem_cons_of_mem _ hother)

/-- What is decided first, and then written statement by statement: nothing when the
decision is a refusal. -/
def perform (decided : Except ε' (List (α → Except ε α))) (state : α) : α :=
  match decided with
  | .ok statements => runUntilRefused statements state
  | .error _ => state

theorem perform_invariant (kept : α → Prop)
    {decided : Except ε' (List (α → Except ε α))} {state : α} (hstart : kept state)
    (hstep : ∀ statements, decided = .ok statements → ∀ statement ∈ statements,
      ∀ before after, kept before → statement before = .ok after → kept after) :
    kept (perform decided state) := by
  cases hdecided : decided with
  | error error => exact hstart
  | ok statements => exact runUntilRefused_invariant kept hstart (hstep statements hdecided)

end InternalControl.Fallible
