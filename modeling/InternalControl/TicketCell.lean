import Mathlib.Data.List.Nodup
import Mathlib.Tactic.Common

/-!
# Cells that exchange their ticket

A cell shows the ticket it accepts. Whoever presents it may exchange it for
another, which the cell then shows, until the cell is closed. The tickets spent
are those that were issued, without the one on show. When no ticket is issued
twice, none is therefore spent twice, and none is spent once the cell is closed.
-/

namespace InternalControl.TicketCell

variable {τ : Type}

/-- The ticket that a cell shows, and whether it still accepts it. -/
structure Cell (τ : Type) where
  ticket : τ
  isClosed : Bool

/-- What happens to a cell. -/
inductive Change (τ : Type) where
  | opened (ticket : τ)
  | exchanged (old new : τ)
  | closed

/-- How a change takes a cell on. -/
inductive Step : Option (Cell τ) → Change τ → Option (Cell τ) → Prop
  | opened (ticket : τ) : Step none (.opened ticket) (some ⟨ticket, false⟩)
  | exchanged (old new : τ) :
      Step (some ⟨old, false⟩) (.exchanged old new) (some ⟨new, false⟩)
  | closed (cell : Cell τ) : Step (some cell) .closed (some { cell with isClosed := true })

/-- The changes of a cell from before it was opened, in order, and the cell after them. -/
inductive Trace : List (Change τ) → Option (Cell τ) → Prop
  | start : Trace [] none
  | step {changes : List (Change τ)} {cell after : Option (Cell τ)} {change : Change τ}
      (htrace : Trace changes cell) (hstep : Step cell change after) :
      Trace (changes ++ [change]) after

/-- The ticket that a change issues. -/
def Change.issued : Change τ → Option τ
  | .opened ticket => some ticket
  | .exchanged _ new => some new
  | .closed => none

/-- The ticket that a change spends. -/
def Change.spent : Change τ → Option τ
  | .exchanged old _ => some old
  | _ => none

/-- The tickets issued, in order. -/
def issued (changes : List (Change τ)) : List τ := changes.filterMap Change.issued

/-- The tickets spent, in order. -/
def spent (changes : List (Change τ)) : List τ := changes.filterMap Change.spent

/-- A closed cell stays closed. -/
theorem closed_of_mem {changes : List (Change τ)} {cell : Option (Cell τ)}
    (htrace : Trace changes cell) (h : .closed ∈ changes) :
    ∃ shown, cell = some shown ∧ shown.isClosed = true := by
  induction htrace with
  | start => cases h
  | step htrace hstep ih =>
    rcases List.mem_append.mp h with hbefore | hlast
    · have hclosed := ih hbefore
      cases hstep with
      | opened ticket =>
        obtain ⟨shown, hshown, -⟩ := hclosed
        cases hshown
      | exchanged old new =>
        obtain ⟨shown, hshown, hclosed⟩ := hclosed
        cases hshown
        cases hclosed
      | closed cell => exact ⟨_, rfl, rfl⟩
    · cases List.mem_singleton.mp hlast
      cases hstep with
      | closed cell => exact ⟨_, rfl, rfl⟩

/-- A trace has a trace of every part of it from the start. -/
theorem Trace.of_append {before after : List (Change τ)} {cell : Option (Cell τ)}
    (htrace : Trace (before ++ after) cell) : ∃ between, Trace before between := by
  generalize hall : before ++ after = changes at htrace
  induction htrace generalizing after with
  | start =>
    have hnil := (List.append_eq_nil_iff.mp hall).1
    exact ⟨none, hnil ▸ Trace.start⟩
  | @step changes cell next change htrace hstep ih =>
    rcases List.eq_nil_or_concat after with hafter | ⟨init, last, hafter⟩
    · subst hafter
      rw [List.append_nil] at hall
      exact ⟨next, hall ▸ Trace.step htrace hstep⟩
    · subst hafter
      rw [List.concat_eq_append, ← List.append_assoc] at hall
      exact ih (List.append_inj_left' hall rfl)

/-- The last change of a trace is a step from the trace before it. -/
theorem Trace.last {changes : List (Change τ)} {change : Change τ} {cell : Option (Cell τ)}
    (htrace : Trace (changes ++ [change]) cell) :
    ∃ before, Trace changes before ∧ Step before change cell := by
  generalize hall : changes ++ [change] = all at htrace
  cases htrace with
  | start => exact absurd hall (List.append_ne_nil_of_right_ne_nil _ (List.cons_ne_nil _ _))
  | step htrace hstep =>
    have hinit := List.append_inj_left' hall rfl
    have hlast := List.append_inj_right' hall rfl
    cases hlast
    exact ⟨_, hinit ▸ htrace, hstep⟩

/-- No ticket is exchanged once the cell is closed. -/
theorem not_exchanged_of_closed {before after : List (Change τ)} {cell : Option (Cell τ)}
    (htrace : Trace (before ++ .closed :: after) cell) (old new : τ) :
    .exchanged old new ∉ after := by
  intro hmem
  obtain ⟨init, rest, rfl⟩ := List.append_of_mem hmem
  have hsplit : before ++ .closed :: (init ++ .exchanged old new :: rest) =
      (before ++ .closed :: init ++ [.exchanged old new]) ++ rest := by
    simp only [List.append_assoc, List.cons_append, List.nil_append]
  rw [hsplit] at htrace
  obtain ⟨reached, htrace⟩ := htrace.of_append
  obtain ⟨cell, htrace, hstep⟩ := htrace.last
  have hmem : .closed ∈ before ++ .closed :: init :=
    List.mem_append_right _ (List.mem_cons_self ..)
  obtain ⟨shown, rfl, hclosed⟩ := closed_of_mem htrace hmem
  cases hstep
  cases hclosed

/-- The tickets issued are those spent and the one on show. -/
theorem issued_eq {changes : List (Change τ)} {cell : Option (Cell τ)}
    (htrace : Trace changes cell) :
    issued changes = spent changes ++ (cell.map Cell.ticket).toList := by
  induction htrace with
  | start => rfl
  | step htrace hstep ih =>
    unfold issued spent at ih ⊢
    rw [List.filterMap_append, List.filterMap_append, ih]
    cases hstep with
    | opened ticket => rfl
    | exchanged old new => simp [Change.issued, Change.spent]
    | closed cell =>
      have hissued : List.filterMap Change.issued [(.closed : Change τ)] = [] := rfl
      have hspent : List.filterMap Change.spent [(.closed : Change τ)] = [] := rfl
      rw [hissued, hspent, List.append_nil, List.append_nil]
      rfl

/-- When no ticket is issued twice, none is spent twice. -/
theorem nodup_spent {changes : List (Change τ)} {cell : Option (Cell τ)}
    (htrace : Trace changes cell) (hissued : (issued changes).Nodup) : (spent changes).Nodup := by
  rw [issued_eq htrace] at hissued
  exact hissued.of_append_left

end InternalControl.TicketCell
