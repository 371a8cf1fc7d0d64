import Mathlib.Data.List.Nodup
import Mathlib.Data.List.Basic
import Mathlib.Tactic.Common

/-!
# Tables with a primary key

Rows in the order they were inserted, no two with one key. The statements are
those of a store: a row is found by its key, inserted when its key is not
taken, and an update changes the rows that its condition picks and counts them.
-/

namespace InternalControl

/-- The rows of a table, with a key that no two of them share. -/
structure Table {ρ κ : Type} (key : ρ → κ) where
  /-- The rows, in the order they were inserted. -/
  rows : List ρ
  /-- No key occurs twice. -/
  nodup : (rows.map key).Nodup

namespace Table

variable {ρ κ : Type} {key : ρ → κ}

/-- The table without rows. -/
def empty : Table key := ⟨[], List.nodup_nil⟩

section Statements

variable [DecidableEq κ]

/-- The row under a key. -/
def find? (table : Table key) (id : κ) : Option ρ :=
  table.rows.find? fun row => key row = id

/-- Insert a row. A key that is taken is a violation of the primary key. -/
def insert (table : Table key) (row : ρ) : Option (Table key) :=
  if h : key row ∈ table.rows.map key then none
  else some ⟨table.rows ++ [row], by
    rw [List.map_append, List.nodup_append]
    refine ⟨table.nodup, List.nodup_singleton _, ?_⟩
    rintro other hother last hlast rfl
    exact h (List.mem_singleton.mp hlast ▸ hother)⟩

/-- Insert rows together. None goes in when a key is taken. -/
def insertAll (table : Table key) (rows : List ρ) : Option (Table key) :=
  if h : ((table.rows ++ rows).map key).Nodup then some ⟨table.rows ++ rows, h⟩ else none

end Statements

/-- Change the rows that a condition picks. The change leaves the key alone. -/
def update (table : Table key) (picked : ρ → Prop) [DecidablePred picked] (change : ρ → ρ)
    (hkey : ∀ row, key (change row) = key row) : Table key where
  rows := table.rows.map fun row => if picked row then change row else row
  nodup := by
    have hmap : (table.rows.map fun row => if picked row then change row else row).map key =
        table.rows.map key := by
      rw [List.map_map]
      refine List.map_congr_left fun row _ => ?_
      dsimp only [Function.comp_apply]
      split
      · exact hkey row
      · rfl
    rw [hmap]
    exact table.nodup

/-- Keep the rows that a condition picks, and delete the others. -/
def filter (table : Table key) (kept : ρ → Prop) [DecidablePred kept] : Table key where
  rows := table.rows.filter fun row => kept row
  nodup := table.nodup.sublist (List.filter_sublist.map key)

/-- How many rows a condition picks. -/
def affected (table : Table key) (picked : ρ → Prop) [DecidablePred picked] : ℕ :=
  table.rows.countP fun row => picked row

section Facts

variable [DecidableEq κ] {table : Table key} {row : ρ} {id : κ}

@[simp] theorem find?_empty : (empty : Table key).find? id = none := rfl

theorem mem_of_find? (h : table.find? id = some row) : row ∈ table.rows :=
  List.mem_of_find?_eq_some h

theorem key_of_find? (h : table.find? id = some row) : key row = id := by
  have hfound := List.find?_some h
  exact of_decide_eq_true hfound

/-- A row of the table is the one under its key. -/
theorem find?_of_mem (h : row ∈ table.rows) : table.find? (key row) = some row := by
  cases hfound : table.find? (key row) with
  | none =>
    have hno := List.find?_eq_none.mp hfound row h
    exact absurd (decide_eq_true rfl) hno
  | some other =>
    have hkey := key_of_find? hfound
    rw [List.inj_on_of_nodup_map table.nodup (mem_of_find? hfound) h hkey]

/-- A row goes in when its key is not taken. -/
theorem insert_eq_some {after : Table key} (h : table.insert row = some after) :
    table.find? (key row) = none ∧ after.rows = table.rows ++ [row] := by
  unfold insert at h
  split at h
  · cases h
  · next hnew =>
    cases h
    refine ⟨List.find?_eq_none.mpr fun other hother => ?_, rfl⟩
    rw [decide_eq_true_eq]
    exact fun hkey => hnew (hkey ▸ List.mem_map_of_mem hother)

/-- Rows go in together when their keys are not taken, nor one of them twice. -/
theorem insertAll_eq_some_iff {rows : List ρ} {after : Table key} :
    table.insertAll rows = some after ↔ after.rows = table.rows ++ rows := by
  unfold insertAll
  constructor
  · intro h
    split at h
    · cases h
      rfl
    · cases h
  · intro h
    have hnodup : ((table.rows ++ rows).map key).Nodup := h ▸ after.nodup
    rw [dif_pos hnodup]
    cases after
    cases h
    rfl

/-- After an insertion the row is under its key, and the other keys show what they did. -/
theorem find?_insert {after : Table key} (h : table.insert row = some after) (id : κ) :
    after.find? id = if key row = id then some row else table.find? id := by
  have hinsert := insert_eq_some h
  unfold find?
  rw [hinsert.2, List.find?_append]
  split
  · next hid =>
    have hnone : table.find? id = none := hid ▸ hinsert.1
    unfold find? at hnone
    rw [hnone]
    simp [hid]
  · next hid => simp [hid]

/-- A key that was there is there after an insertion. -/
theorem isSome_find?_insert {after : Table key} (h : table.insert row = some after)
    (hid : (table.find? id).isSome) : (after.find? id).isSome := by
  rw [find?_insert h]
  split
  · rfl
  · exact hid

/-- The rows after an insertion. -/
theorem mem_insert {after : Table key} (h : table.insert row = some after) {other : ρ} :
    other ∈ after.rows ↔ other ∈ table.rows ∨ other = row := by
  rw [(insert_eq_some h).2, List.mem_append, List.mem_singleton]

variable {picked : ρ → Prop} [DecidablePred picked] {change : ρ → ρ}
  {hkey : ∀ row, key (change row) = key row}

/-- After an update each key shows its row, changed when the condition picks it. -/
theorem find?_update :
    (table.update picked change hkey).find? id =
      (table.find? id).map fun row => if picked row then change row else row := by
  have hsame : ∀ row, decide (key (if picked row then change row else row) = id) =
      decide (key row = id) := by
    intro row
    split
    · rw [hkey]
    · rfl
  unfold find?
  have hrows : (table.update picked change hkey).rows =
      table.rows.map fun row => if picked row then change row else row := rfl
  rw [hrows]
  induction table.rows with
  | nil => rfl
  | cons row rows ih =>
    rw [List.map_cons, List.find?_cons, List.find?_cons, hsame row]
    cases decide (key row = id) with
    | true => rfl
    | false => exact ih

/-- An update leaves every key where it is. -/
theorem isSome_find?_update :
    ((table.update picked change hkey).find? id).isSome = (table.find? id).isSome := by
  rw [find?_update, Option.isSome_map]

/-- An update whose condition names a key changes one row when the row under that key meets
it, and none otherwise. -/
theorem affected_eq (hpin : ∀ row, picked row → key row = id) :
    table.affected picked = if ∃ row, table.find? id = some row ∧ picked row then 1 else 0 := by
  have hone : table.affected picked ≤ 1 := by
    have hcount : table.affected picked ≤ (table.rows.map key).count id := by
      rw [List.count, List.countP_map]
      refine List.countP_mono_left fun row _ hrow => ?_
      simpa using hpin row (of_decide_eq_true hrow)
    exact Nat.le_trans hcount (List.nodup_iff_count_le_one.mp table.nodup id)
  split
  · next hex =>
    have hpos : 0 < table.affected picked := by
      refine List.countP_pos_iff.mpr ?_
      obtain ⟨row, hfound, hpicked⟩ := hex
      exact ⟨row, mem_of_find? hfound, decide_eq_true hpicked⟩
    omega
  · next hno =>
    refine List.countP_eq_zero.mpr fun row hrow hpicked => hno ?_
    have hpicked := of_decide_eq_true hpicked
    exact ⟨row, hpin row hpicked ▸ find?_of_mem hrow, hpicked⟩

/-- One row was changed exactly when the row under the key that the condition names meets it. -/
theorem affected_eq_one_iff (hpin : ∀ row, picked row → key row = id) :
    table.affected picked = 1 ↔ ∃ row, table.find? id = some row ∧ picked row := by
  rw [affected_eq hpin]
  split <;> simp_all

/-- What an update leaves under a key that its condition does not pick. -/
theorem find?_update_of_not (h : ∀ row, table.find? id = some row → ¬picked row) :
    (table.update picked change hkey).find? id = table.find? id := by
  rw [find?_update]
  cases hfound : table.find? id with
  | none => rfl
  | some row => rw [Option.map_some, if_neg (h row hfound)]

/-- What an update leaves under a key whose row its condition picks. -/
theorem find?_update_of_picked (hfound : table.find? id = some row) (h : picked row) :
    (table.update picked change hkey).find? id = some (change row) := by
  rw [find?_update, hfound, Option.map_some, if_pos h]

/-- A row that an update does not pick stays. -/
theorem find?_update_of_unpicked (hfound : table.find? id = some row) (h : ¬picked row) :
    (table.update picked change hkey).find? id = some row := by
  rw [find?_update, hfound, Option.map_some, if_neg h]

end Facts

end Table

end InternalControl
