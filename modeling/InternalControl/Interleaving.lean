import Mathlib.Logic.Function.Basic
import Mathlib.Logic.Relation
import Mathlib.Tactic.Common

/-!
# Interleaved clients

Any number of clients run programs of their own over one shared state, a
statement at a time and in any order. A property of every client and of the
state holds in every run when a client's own statement keeps it, and leaves
the other clients theirs.
-/

namespace InternalControl

/-- The shared state, and how far each client has come. -/
structure Interleaving (ι σ φ : Type) where
  shared : σ
  phase : ι → φ

namespace Interleaving

variable {ι σ φ α : Type} [DecidableEq ι]

/-- What a statement makes of the shared state and of the client, when it can run. -/
abbrev Program (ι σ φ α : Type) := ι → α → σ → φ → Option (σ × φ)

/-- A statement of one client. The others stay where they are. -/
def next (program : Program ι σ φ α) (c : Interleaving ι σ φ) (i : ι) (a : α) :
    Option (Interleaving ι σ φ) :=
  (program i a c.shared (c.phase i)).map fun after =>
    ⟨after.1, Function.update c.phase i after.2⟩

/-- Some client runs a statement that meets a condition. -/
def Step (program : Program ι σ φ α) (meets : ι → α → σ → φ → Prop)
    (c c' : Interleaving ι σ φ) : Prop :=
  ∃ i a, meets i a c.shared (c.phase i) ∧ next program c i a = some c'

/-- Any number of statements, each of which meets the condition. -/
abbrev Run (program : Program ι σ φ α) (meets : ι → α → σ → φ → Prop) :
    Interleaving ι σ φ → Interleaving ι σ φ → Prop :=
  Relation.ReflTransGen (Step program meets)

/-- No condition on the statements. -/
abbrev Anyhow : ι → α → σ → φ → Prop := fun _ _ _ _ => True

/-- Run statements in a given order, as long as they can run and meet the condition. -/
def runAll (program : Program ι σ φ α) (meets : ι → α → σ → φ → Prop)
    [∀ i a s p, Decidable (meets i a s p)] :
    Interleaving ι σ φ → List (ι × α) → Option (Interleaving ι σ φ)
  | c, [] => some c
  | c, (i, a) :: rest =>
    if meets i a c.shared (c.phase i) then
      (next program c i a).bind fun c' => runAll program meets c' rest
    else none

section Rules

variable {program : Program ι σ φ α} {meets : ι → α → σ → φ → Prop} {c c' : Interleaving ι σ φ}

theorem next_eq_some {i : ι} {a : α} (h : next program c i a = some c') :
    ∃ s' p', program i a c.shared (c.phase i) = some (s', p') ∧
      c' = ⟨s', Function.update c.phase i p'⟩ := by
  obtain ⟨⟨s', p'⟩, hprogram, hc⟩ := Option.map_eq_some_iff.mp h
  exact ⟨s', p', hprogram, hc.symm⟩

/-- A list of statements is a run. -/
theorem run_of_runAll [∀ i a s p, Decidable (meets i a s p)] {statements : List (ι × α)}
    (h : runAll program meets c statements = some c') : Run program meets c c' := by
  induction statements generalizing c with
  | nil =>
    cases h
    exact .refl
  | cons first rest ih =>
    obtain ⟨i, a⟩ := first
    rw [runAll] at h
    split at h
    · next hmeets =>
      obtain ⟨middle, hmiddle, hrest⟩ := Option.bind_eq_some_iff.mp h
      exact .head ⟨i, a, hmeets, hmiddle⟩ (ih hrest)
    · cases h

/-- Where a list of statements leads, with what can be computed there. -/
theorem exists_run [∀ i a s p, Decidable (meets i a s p)] (statements : List (ι × α))
    {seen : Interleaving ι σ φ → Bool} (h : (runAll program meets c statements).any seen = true) :
    ∃ c', Run program meets c c' ∧ seen c' = true := by
  cases hrun : runAll program meets c statements with
  | none =>
    rw [hrun] at h
    cases h
  | some c' =>
    rw [hrun] at h
    exact ⟨c', run_of_runAll hrun, h⟩

/-- Two lists of statements, one after the other, with what can be computed after each. -/
theorem exists_run_run [∀ i a s p, Decidable (meets i a s p)] (first second : List (ι × α))
    {seen seen' : Interleaving ι σ φ → Bool}
    (h : (runAll program meets c first).any
      (fun middle => seen middle && (runAll program meets middle second).any seen') = true) :
    ∃ middle c', Run program meets c middle ∧ Run program meets middle c' ∧
      seen middle = true ∧ seen' c' = true := by
  obtain ⟨middle, hmiddle, hseen⟩ := exists_run first h
  obtain ⟨hfirst, hsecond⟩ := Bool.and_eq_true_iff.mp hseen
  obtain ⟨c', hc', hlast⟩ := exists_run second hsecond
  exact ⟨middle, c', hmiddle, hc', hfirst, hlast⟩

/-- A run whose statements meet a condition meets a weaker one. -/
theorem Run.mono {weaker : ι → α → σ → φ → Prop} (h : Run program meets c c')
    (hweaker : ∀ i a s p, meets i a s p → weaker i a s p) : Run program weaker c c' :=
  Relation.ReflTransGen.mono
    (fun _ _ ⟨i, a, hmeets, hnext⟩ => ⟨i, a, hweaker i a _ _ hmeets, hnext⟩) _ _ h

/-- A statement keeps what holds of the state and of its own client, what holds of any other
client, and what tells two clients apart. -/
structure Keeps (program : Program ι σ φ α) (meets : ι → α → σ → φ → Prop) (kept : σ → Prop)
    (holds : ι → σ → φ → Prop) (apart : φ → φ → Prop) : Prop where
  symm : ∀ p q, apart p q → apart q p
  own : ∀ i a s p s' p', meets i a s p → program i a s p = some (s', p') → kept s → holds i s p →
    kept s' ∧ holds i s' p'
  other : ∀ i k a s p s' p' q, i ≠ k → meets i a s p → program i a s p = some (s', p') →
    kept s → holds i s p → holds k s q → apart p q → holds k s' q ∧ apart p' q

/-- What holds of a state, of every client, and of every two of them. -/
structure Holds (kept : σ → Prop) (holds : ι → σ → φ → Prop) (apart : φ → φ → Prop)
    (c : Interleaving ι σ φ) : Prop where
  shared : kept c.shared
  client : ∀ i, holds i c.shared (c.phase i)
  clients : ∀ i k, i ≠ k → apart (c.phase i) (c.phase k)

variable {kept : σ → Prop} {holds : ι → σ → φ → Prop} {apart : φ → φ → Prop}

theorem Keeps.step (hkeeps : Keeps program meets kept holds apart)
    (hstep : Step program meets c c') (h : Holds kept holds apart c) : Holds kept holds apart c' := by
  obtain ⟨i, a, hmeets, hnext⟩ := hstep
  obtain ⟨s', p', hprogram, rfl⟩ := next_eq_some hnext
  obtain ⟨hshared, hown⟩ := hkeeps.own i a _ _ s' p' hmeets hprogram h.shared (h.client i)
  have hother : ∀ k, i ≠ k → holds k s' (c.phase k) ∧ apart p' (c.phase k) := fun k hik =>
    hkeeps.other i k a _ _ s' p' _ hik hmeets hprogram h.shared (h.client i) (h.client k)
      (h.clients i k hik)
  refine ⟨hshared, fun k => ?_, fun j k hjk => ?_⟩
  · by_cases hik : i = k
    · subst hik
      simpa only [Function.update_self] using hown
    · simpa only [Function.update_of_ne (Ne.symm hik)] using (hother k hik).1
  · by_cases hij : i = j
    · subst hij
      simpa only [Function.update_self, Function.update_of_ne (Ne.symm hjk)] using (hother k hjk).2
    · by_cases hik : i = k
      · subst hik
        simpa only [Function.update_self, Function.update_of_ne (Ne.symm hij)] using
          hkeeps.symm _ _ (hother j hij).2
      · simpa only [Function.update_of_ne (Ne.symm hij), Function.update_of_ne (Ne.symm hik)] using
          h.clients j k hjk

/-- What every statement keeps holds after any run. -/
theorem Keeps.run (hkeeps : Keeps program meets kept holds apart) (hrun : Run program meets c c')
    (h : Holds kept holds apart c) : Holds kept holds apart c' := by
  induction hrun with
  | refl => exact h
  | tail _ hstep ih => exact hkeeps.step hstep ih

/-- What every statement leaves as it was is so after any run. -/
theorem Keeps.run_related (hkeeps : Keeps program meets kept holds apart) {related : σ → σ → Prop}
    (hrefl : ∀ s, related s s)
    (htrans : ∀ s s' s'', related s s' → related s' s'' → related s s'')
    (hstep : ∀ i a s p s' p', meets i a s p → program i a s p = some (s', p') → kept s →
      holds i s p → related s s')
    (hrun : Run program meets c c') (h : Holds kept holds apart c) : related c.shared c'.shared := by
  induction hrun with
  | refl => exact hrefl _
  | tail hbefore hlast ih =>
    have hmiddle := hkeeps.run hbefore h
    obtain ⟨i, a, hmeets, hnext⟩ := hlast
    obtain ⟨s', p', hprogram, rfl⟩ := next_eq_some hnext
    exact htrans _ _ _ ih (hstep i a _ _ s' p' hmeets hprogram hmiddle.shared (hmiddle.client i))

end Rules

end Interleaving

end InternalControl
