import Mathlib

/-!
# Timelines

Entries of a history, each over a half-open interval of time: an entry starts,
and may stop. When each stops where the next one starts, and only the last is
open, the intervals partition the time from the first start on, whether or not
some of them are empty.
-/

namespace InternalControl.Timeline

variable {τ α : Type} [LinearOrder τ] (start : α → τ) (stop : α → Option τ)

/-- An entry covers the instants from its start on, before its stop. -/
def Covers (entry : α) (time : τ) : Prop :=
  start entry ≤ time ∧ ∀ until_ ∈ stop entry, time < until_

instance (entry : α) (time : τ) : Decidable (Covers start stop entry time) :=
  match h : stop entry with
  | none => decidable_of_iff (start entry ≤ time) ⟨fun hle => ⟨hle, by simp [h]⟩, And.left⟩
  | some until_ => decidable_of_iff (start entry ≤ time ∧ time < until_)
      ⟨fun hboth => ⟨hboth.1, by simpa [h] using hboth.2⟩,
        fun hboth => ⟨hboth.1, hboth.2 until_ h⟩⟩

/-- Entries that follow one another from a time on: each stops, not before it starts, where the
next one starts, and the last does not stop. -/
inductive Contiguous : τ → List α → Prop
  | last (entry : α) (hopen : stop entry = none) : Contiguous (start entry) [entry]
  | cons (entry : α) (until_ : τ) (rest : List α) (hstop : stop entry = some until_)
      (hle : start entry ≤ until_) (hrest : Contiguous until_ rest) :
      Contiguous (start entry) (entry :: rest)

variable {start stop} {first : τ} {entries : List α}

/-- One entry is open. -/
theorem Contiguous.countP_open (h : Contiguous start stop first entries) :
    entries.countP (fun entry => stop entry = none) = 1 := by
  induction h with
  | last entry hopen => simp [hopen]
  | cons entry until_ rest hstop hle hrest ih =>
    rw [List.countP_cons_of_neg (by simp [hstop])]
    exact ih

/-- The intervals partition the time from the first start on. -/
theorem Contiguous.countP_covers (h : Contiguous start stop first entries) (time : τ) :
    entries.countP (fun entry => Covers start stop entry time) =
      if first ≤ time then 1 else 0 := by
  induction h with
  | last entry hopen =>
    have hcovers : Covers start stop entry time ↔ start entry ≤ time := by
      unfold Covers
      simp [hopen]
    by_cases hle : start entry ≤ time <;> simp [hcovers, hle]
  | cons entry until_ rest hstop hle hrest ih =>
    have hcovers : Covers start stop entry time ↔ start entry ≤ time ∧ time < until_ := by
      unfold Covers
      simp [hstop]
    rw [List.countP_cons, ih]
    rcases lt_or_ge time until_ with hbefore | hafter
    · -- the rest starts at the stop, so only this entry may cover the time
      rw [if_neg (not_le.mpr hbefore)]
      by_cases hstart : start entry ≤ time <;> simp [hcovers, hstart, hbefore]
    · have hstart : start entry ≤ time := le_trans hle hafter
      rw [if_pos hafter, if_pos hstart]
      simp [hcovers, not_lt.mpr hafter]

/-- The timeline starts where its first entry does. -/
theorem Contiguous.first_eq {entry : α} {rest : List α}
    (h : Contiguous start stop first (entry :: rest)) : first = start entry := by
  cases h with
  | last _ hopen => rfl
  | cons _ until_ _ hstop hle hrest => rfl

/-- Only one entry is open. -/
theorem Contiguous.eq_of_open (h : Contiguous start stop first entries) {entry other : α}
    (hentry : entry ∈ entries) (hopen : stop entry = none) (hother : other ∈ entries)
    (hopen' : stop other = none) : entry = other := by
  have hone := h.countP_open
  rw [List.countP_eq_length_filter, List.length_eq_one_iff] at hone
  obtain ⟨only, honly⟩ := hone
  have heq : ∀ any ∈ entries, stop any = none → any = only := by
    intro any hany hstop
    have hmem : any ∈ entries.filter fun entry => stop entry = none :=
      List.mem_filter.mpr ⟨hany, decide_eq_true hstop⟩
    rw [honly] at hmem
    exact List.mem_singleton.mp hmem
  rw [heq entry hentry hopen, heq other hother hopen']

/-- An entry stops where the one after it starts. -/
theorem Contiguous.stop_eq {before rest : List α} {entry next : α}
    (h : Contiguous start stop first (before ++ entry :: next :: rest)) :
    stop entry = some (start next) := by
  induction before generalizing first with
  | nil =>
    cases h with
    | cons _ until_ _ hstop hle hrest => rw [hstop, hrest.first_eq]
  | cons earlier before ih =>
    rw [List.cons_append] at h
    generalize hentries : before ++ entry :: next :: rest = others at h
    cases h with
    | last _ hopen => exact absurd hentries (by simp)
    | cons _ until_ _ hstop hle hrest =>
      rw [← hentries] at hrest
      exact ih hrest

/-- The open entry is the last. -/
theorem Contiguous.exists_last (h : Contiguous start stop first entries) :
    ∃ before last, entries = before ++ [last] ∧ stop last = none := by
  induction h with
  | last entry hopen => exact ⟨[], entry, rfl, hopen⟩
  | cons entry until_ rest hstop hle hrest ih =>
    obtain ⟨before, last, hrest, hopen⟩ := ih
    exact ⟨entry :: before, last, by rw [hrest, List.cons_append], hopen⟩

/-- The timeline goes on: its open entry is stopped, not before it starts, and another starts
there. The others are as they were. -/
theorem Contiguous.map_append (h : Contiguous start stop first entries) {close : α → α}
    {until_ : τ} {next : α}
    (hkept : ∀ entry ∈ entries, stop entry ≠ none → close entry = entry)
    (hclosed : ∀ entry ∈ entries, stop entry = none →
      start (close entry) = start entry ∧ stop (close entry) = some until_ ∧
        start entry ≤ until_)
    (hstart : start next = until_) (hopen : stop next = none) :
    Contiguous start stop first (entries.map close ++ [next]) := by
  induction h with
  | last entry hlast =>
    obtain ⟨hsame, hstop, hle⟩ := hclosed entry (List.mem_singleton_self entry) hlast
    have hnext : Contiguous start stop until_ [next] := hstart ▸ Contiguous.last next hopen
    have hentry := Contiguous.cons (close entry) until_ [next] hstop (hsame ▸ hle) hnext
    rw [hsame] at hentry
    exact hentry
  | cons entry ending rest hstop hle hrest ih =>
    have hsame : close entry = entry :=
      hkept entry (List.mem_cons_self ..) (by rw [hstop]; exact Option.some_ne_none ending)
    have hfollows := ih (fun other hother => hkept other (List.mem_cons_of_mem _ hother))
      fun other hother => hclosed other (List.mem_cons_of_mem _ hother)
    rw [List.map_cons, hsame, List.cons_append]
    exact Contiguous.cons entry ending _ hstop hle hfollows

end InternalControl.Timeline
