import Mathlib

/-!
# Maps that remember insertion order

Setting an existing key keeps its place, a new key goes to the end, and the
values are visited in that order. The absence of repeated keys is a field, so
no later result has to assume it.
-/

namespace InternalControl

/-- A finite map visited in insertion order. -/
structure KeyedMap (κ α : Type*) where
  /-- The key and value pairs, in insertion order. -/
  entries : List (κ × α)
  /-- No key occurs twice. -/
  nodup : (entries.map Prod.fst).Nodup

namespace KeyedMap

variable {κ α β : Type*}

/-- The map without entries. -/
def empty : KeyedMap κ α := ⟨[], List.nodup_nil⟩

/-- The keys in insertion order. -/
def keys (m : KeyedMap κ α) : List κ := m.entries.map Prod.fst

/-- The values in insertion order of their keys. -/
def values (m : KeyedMap κ α) : List α := m.entries.map Prod.snd

theorem nodup_keys (m : KeyedMap κ α) : m.keys.Nodup := m.nodup

/-- How many keys there are. -/
def size (m : KeyedMap κ α) : ℕ := m.entries.length

@[simp] theorem size_empty : (empty : KeyedMap κ α).size = 0 := rfl

theorem length_keys (m : KeyedMap κ α) : m.keys.length = m.size := List.length_map _

/-- What a measure of the values adds up to. -/
def total (m : KeyedMap κ α) (f : α → ℤ) : ℤ := (m.values.map f).sum

@[simp] theorem total_empty (f : α → ℤ) : (empty : KeyedMap κ α).total f = 0 := rfl

/-- Change every value in its place. -/
def mapValues (m : KeyedMap κ α) (f : α → β) : KeyedMap κ β where
  entries := m.entries.map fun entry => (entry.1, f entry.2)
  nodup := by
    rw [List.map_map]
    exact m.nodup

@[simp] theorem keys_mapValues (m : KeyedMap κ α) (f : α → β) : (m.mapValues f).keys = m.keys := by
  simp [keys, mapValues]

@[simp] theorem values_mapValues (m : KeyedMap κ α) (f : α → β) :
    (m.mapValues f).values = m.values.map f := by
  simp [values, mapValues]

/-- Keys that a partial map keeps are among the keys it was given. -/
theorem filterMap_map_sublist {γ : Type*} {f : α → Option β} {key : α → γ} {key' : β → γ}
    (hf : ∀ a b, f a = some b → key' b = key a) (items : List α) :
    List.Sublist ((items.filterMap f).map key') (items.map key) := by
  induction items with
  | nil => exact List.Sublist.refl _
  | cons a rest ih =>
    cases h : f a with
    | none =>
      rw [List.filterMap_cons_none h]
      exact ih.cons _
    | some b =>
      rw [List.filterMap_cons_some h, List.map_cons, List.map_cons, hf a b h]
      exact ih.cons_cons _

variable [DecidableEq κ]

/-- The value under a key. -/
def get? (m : KeyedMap κ α) (k : κ) : Option α :=
  (m.entries.find? fun entry => entry.1 = k).map Prod.snd

/-- Whether the key is present. -/
def has (m : KeyedMap κ α) (k : κ) : Bool := (m.get? k).isSome

/-- Replace the value of a present key in a list of entries. -/
def replaceEntry (k : κ) (v : α) : List (κ × α) → List (κ × α)
  | [] => []
  | entry :: rest => if entry.1 = k then (k, v) :: rest else entry :: replaceEntry k v rest

theorem replaceEntry_keys (entries : List (κ × α)) (k : κ) (v : α) :
    (replaceEntry k v entries).map Prod.fst = entries.map Prod.fst := by
  induction entries with
  | nil => rfl
  | cons entry rest ih =>
    rw [replaceEntry]
    split
    · next h => rw [List.map_cons, List.map_cons, h]
    · rw [List.map_cons, List.map_cons, ih]

/-- Set a key: in place when it is present, at the end otherwise. -/
def set (m : KeyedMap κ α) (k : κ) (v : α) : KeyedMap κ α :=
  if h : k ∈ m.keys then
    ⟨replaceEntry k v m.entries, by rw [replaceEntry_keys]; exact m.nodup⟩
  else
    ⟨m.entries ++ [(k, v)], by
      rw [List.map_append]
      exact List.nodup_append.mpr ⟨m.nodup, by simp, by
        intro a ha b hb he
        simp only [List.map_cons, List.map_nil, List.mem_singleton] at hb
        exact h (hb ▸ he ▸ ha)⟩⟩

theorem find?_replaceEntry (entries : List (κ × α)) (k k' : κ) (v : α)
    (hk : k ∈ entries.map Prod.fst) :
    ((replaceEntry k v entries).find? fun entry => entry.1 = k').map Prod.snd =
      if k' = k then some v else (entries.find? fun entry => entry.1 = k').map Prod.snd := by
  induction entries with
  | nil => simp at hk
  | cons entry rest ih =>
    rw [replaceEntry]
    by_cases he : entry.1 = k
    · rw [if_pos he]
      by_cases hk' : k' = k
      · simp [hk']
      · simp [he, Ne.symm hk', hk']
    · have hr : k ∈ rest.map Prod.fst := by
        rcases List.mem_cons.mp hk with h | h
        · exact absurd h.symm he
        · exact h
      rw [if_neg he]
      by_cases hk' : entry.1 = k'
      · have hne : k' ≠ k := fun h => he (hk'.trans h)
        simp [hk', hne]
      · simpa [hk'] using ih hr

/-- The value under any key after a set. -/
theorem get?_set (m : KeyedMap κ α) (k k' : κ) (v : α) :
    (m.set k v).get? k' = if k' = k then some v else m.get? k' := by
  unfold set
  split
  · next h => exact find?_replaceEntry m.entries k k' v h
  · next h =>
    simp only [get?, List.find?_append]
    by_cases hk : k' = k
    · subst hk
      have hnone : (m.entries.find? fun entry => entry.1 = k') = none := by
        rw [List.find?_eq_none]
        intro x hx he
        exact h (List.mem_map.mpr ⟨x, hx, by simpa using he⟩)
      simp [hnone]
    · have hne : ¬k = k' := fun he => hk he.symm
      simp [hk, hne]

@[simp] theorem get?_set_self (m : KeyedMap κ α) (k : κ) (v : α) :
    (m.set k v).get? k = some v := by simp [get?_set]

theorem get?_set_of_ne (m : KeyedMap κ α) {k k' : κ} (v : α) (h : k' ≠ k) :
    (m.set k v).get? k' = m.get? k' := by simp [get?_set, h]

@[simp] theorem get?_empty (k : κ) : (empty : KeyedMap κ α).get? k = none := rfl

/-- A set changes the keys only by adding an absent one at the end. -/
theorem keys_set (m : KeyedMap κ α) (k : κ) (v : α) :
    (m.set k v).keys = if k ∈ m.keys then m.keys else m.keys ++ [k] := by
  unfold set
  split
  · next h => exact replaceEntry_keys m.entries k v
  · next h => simp [keys]

/-- What a set leaves in the map is the new pair or was there before. -/
theorem mem_entries_set (m : KeyedMap κ α) {k : κ} {v : α} {entry : κ × α}
    (h : entry ∈ (m.set k v).entries) : entry = (k, v) ∨ entry ∈ m.entries := by
  have hreplace : ∀ entries : List (κ × α), entry ∈ replaceEntry k v entries →
      entry = (k, v) ∨ entry ∈ entries := by
    intro entries hentry
    induction entries with
    | nil => cases hentry
    | cons first rest ih =>
      rw [replaceEntry] at hentry
      split at hentry
      · rcases List.mem_cons.mp hentry with rfl | hentry
        · exact Or.inl rfl
        · exact Or.inr (List.mem_cons_of_mem _ hentry)
      · rcases List.mem_cons.mp hentry with rfl | hentry
        · exact Or.inr List.mem_cons_self
        · exact (ih hentry).imp_right (List.mem_cons_of_mem _)
  unfold set at h
  split at h
  · exact hreplace _ h
  · rcases List.mem_append.mp h with h | h
    · exact Or.inr h
    · exact Or.inl (List.mem_singleton.mp h)

/-- A key has a value exactly when it is one of the keys. -/
theorem get?_isSome_iff (m : KeyedMap κ α) (k : κ) : (m.get? k).isSome ↔ k ∈ m.keys := by
  simp [get?, keys]

theorem has_iff (m : KeyedMap κ α) (k : κ) : m.has k = true ↔ k ∈ m.keys :=
  get?_isSome_iff m k

theorem get?_eq_none_iff (m : KeyedMap κ α) (k : κ) : m.get? k = none ↔ k ∉ m.keys := by
  rw [← get?_isSome_iff, Option.not_isSome_iff_eq_none]

/-- The entries are exactly the lookups. -/
theorem mem_entries_iff (m : KeyedMap κ α) (k : κ) (v : α) :
    (k, v) ∈ m.entries ↔ m.get? k = some v := by
  obtain ⟨entries, hnodup⟩ := m
  simp only [get?]
  induction entries with
  | nil => simp
  | cons entry rest ih =>
    rw [List.map_cons, List.nodup_cons] at hnodup
    by_cases hk : entry.1 = k
    · have hrest : ∀ w, (k, w) ∉ rest := fun w hw =>
        hnodup.1 (List.mem_map.mpr ⟨(k, w), hw, hk.symm⟩)
      have hentry : (k, v) = entry ↔ entry.2 = v := by
        rw [← hk]
        exact ⟨fun h => h ▸ rfl, fun h => h ▸ rfl⟩
      simp [hk, hrest, hentry]
    · have hne : (k, v) ≠ entry := fun h => hk (h ▸ rfl)
      simp [hk, hne, ih hnodup.2]

/-- A set adds a key when it was absent. -/
theorem size_set (m : KeyedMap κ α) (k : κ) (v : α) :
    (m.set k v).size = m.size + if m.has k then 0 else 1 := by
  have hhas := has_iff m k
  rw [← length_keys, keys_set]
  by_cases hk : k ∈ m.keys
  · rw [if_pos hk, if_pos (hhas.mpr hk), length_keys, Nat.add_zero]
  · rw [if_neg hk, if_neg (fun h => hk (hhas.mp h)), List.length_append, length_keys,
      List.length_singleton]

/-- Delete a key. -/
def erase (m : KeyedMap κ α) (k : κ) : KeyedMap κ α where
  entries := m.entries.filter fun entry => entry.1 ≠ k
  nodup := m.nodup.sublist (List.filter_sublist.map Prod.fst)

/-- Changing the values changes what is looked up. -/
@[simp] theorem get?_mapValues (m : KeyedMap κ α) (f : α → β) (k : κ) :
    (m.mapValues f).get? k = (m.get? k).map f := by
  simp [get?, mapValues, List.find?_map, Function.comp_def]

@[simp] theorem has_mapValues (m : KeyedMap κ α) (f : α → β) (k : κ) :
    (m.mapValues f).has k = m.has k := by
  simp [has]

/-- The value under any key after a deletion. -/
theorem get?_erase (m : KeyedMap κ α) (k k' : κ) :
    (m.erase k).get? k' = if k' = k then none else m.get? k' := by
  unfold erase get?
  dsimp only
  rw [List.find?_filter]
  by_cases hk : k' = k
  · subst hk
    rw [if_pos rfl, Option.map_eq_none_iff, List.find?_eq_none]
    intro entry _ hentry
    simp at hentry
  · rw [if_neg hk]
    congr 2
    funext entry
    by_cases he : entry.1 = k'
    · simp [he, hk]
    · simp [he]

@[simp] theorem get?_erase_self (m : KeyedMap κ α) (k : κ) : (m.erase k).get? k = none := by
  rw [get?_erase, if_pos rfl]

theorem get?_erase_of_ne (m : KeyedMap κ α) {k k' : κ} (h : k' ≠ k) :
    (m.erase k).get? k' = m.get? k' := by rw [get?_erase, if_neg h]

/-- A key that is deleted was counted once. -/
theorem size_erase (m : KeyedMap κ α) (k : κ) :
    (m.erase k).size + (if m.has k then 1 else 0) = m.size := by
  have hcount : m.keys.count k = if m.has k then 1 else 0 := by
    have hhas := has_iff m k
    by_cases hk : k ∈ m.keys
    · rw [if_pos (hhas.mpr hk)]
      exact List.count_eq_one_of_mem m.nodup hk
    · rw [if_neg (fun h => hk (hhas.mp h))]
      exact List.count_eq_zero_of_not_mem hk
  have hsplit := @List.length_eq_countP_add_countP _ (fun entry : κ × α => decide (entry.1 ≠ k))
    m.entries
  have hother : (m.entries.countP fun entry => decide ¬decide (entry.1 ≠ k) = true) =
      m.keys.count k := by
    rw [keys, List.count, List.countP_map]
    refine List.countP_congr fun entry _ => ?_
    simp
  rw [hother, hcount, List.countP_eq_length_filter] at hsplit
  exact hsplit.symm

/-- A set trades the measure of the value that was there for that of the new one. -/
theorem total_set (m : KeyedMap κ α) (k : κ) (v : α) (f : α → ℤ) :
    (m.set k v).total f = m.total f - (m.get? k).elim 0 f + f v := by
  have hreplace : ∀ entries : List (κ × α), k ∈ entries.map Prod.fst →
      (((replaceEntry k v entries).map Prod.snd).map f).sum =
        ((entries.map Prod.snd).map f).sum -
          (((entries.find? fun entry => entry.1 = k).map Prod.snd).elim 0 f) + f v := by
    intro entries hk
    induction entries with
    | nil => cases hk
    | cons entry rest ih =>
      rw [replaceEntry]
      by_cases he : entry.1 = k
      · simp only [he, reduceIte, List.map_cons, List.sum_cons, List.find?_cons, decide_true,
          Option.map_some, Option.elim_some]
        omega
      · have hrest : k ∈ rest.map Prod.fst := by
          rcases List.mem_cons.mp hk with hsame | hrest
          · exact absurd hsame.symm he
          · exact hrest
        have hind := ih hrest
        simp only [he, reduceIte, List.map_cons, List.sum_cons, List.find?_cons, decide_false]
        omega
  unfold total values get? set
  split
  · next hk => exact hreplace m.entries hk
  · next hk =>
    have hnone : m.get? k = none := (get?_eq_none_iff m k).mpr hk
    unfold get? at hnone
    rw [hnone]
    simp

/-- A deletion takes away the measure of the value that was there. -/
theorem total_erase (m : KeyedMap κ α) (k : κ) (f : α → ℤ) :
    (m.erase k).total f = m.total f - (m.get? k).elim 0 f := by
  obtain ⟨entries, hnodup⟩ := m
  unfold total values get? erase
  dsimp only
  induction entries with
  | nil => rfl
  | cons entry rest ih =>
    rw [List.map_cons, List.nodup_cons] at hnodup
    have hind := ih hnodup.2
    by_cases he : entry.1 = k
    · have hkept : (rest.filter fun entry => decide (entry.1 ≠ k)) = rest := by
        rw [List.filter_eq_self]
        intro other hother
        have hne : other.1 ≠ k := fun hsame =>
          hnodup.1 (List.mem_map.mpr ⟨other, hother, hsame.trans he.symm⟩)
        exact decide_eq_true hne
      simp only [List.filter_cons, List.find?_cons, he, ne_eq, not_true_eq_false, decide_false,
        Bool.false_eq_true, reduceIte, decide_true, Option.map_some, Option.elim_some,
        List.map_cons, List.sum_cons] at hkept ⊢
      rw [hkept]
      omega
    · simp only [List.filter_cons, List.find?_cons, he, ne_eq, not_false_eq_true, decide_true,
        reduceIte, decide_false, List.map_cons, List.sum_cons] at hind ⊢
      omega

/-- The values are exactly what some key looks up. -/
theorem mem_values_iff (m : KeyedMap κ α) (v : α) : v ∈ m.values ↔ ∃ k, m.get? k = some v := by
  simp only [values, List.mem_map, ← mem_entries_iff]
  exact ⟨fun ⟨entry, h, he⟩ => ⟨entry.1, he ▸ h⟩, fun ⟨k, h⟩ => ⟨(k, v), h, rfl⟩⟩

/-- Build a map from pairs, the last value of a repeated key winning. -/
def ofList (pairs : List (κ × α)) : KeyedMap κ α :=
  pairs.foldl (fun m pair => m.set pair.1 pair.2) empty

/-- Index items by a key of theirs. -/
def index (key : α → κ) (items : List α) : KeyedMap κ α :=
  ofList (items.map fun item => (key item, item))

theorem get?_foldl_set (pairs : List (κ × α)) (m : KeyedMap κ α) (k : κ) :
    (pairs.foldl (fun m pair => m.set pair.1 pair.2) m).get? k =
      ((pairs.reverse.find? fun pair => pair.1 = k).map Prod.snd).or (m.get? k) := by
  induction pairs generalizing m with
  | nil => simp
  | cons pair rest ih =>
    rw [List.foldl_cons, ih, List.reverse_cons, List.find?_append, get?_set]
    cases hr : rest.reverse.find? fun pair => pair.1 = k with
    | some found => simp
    | none => by_cases hk : k = pair.1 <;> simp [hk, eq_comm]

/-- Looking up a built map is looking for the last pair with the key. -/
theorem get?_ofList (pairs : List (κ × α)) (k : κ) :
    (ofList pairs).get? k = (pairs.reverse.find? fun pair => pair.1 = k).map Prod.snd := by
  rw [ofList, get?_foldl_set, get?_empty, Option.or_none]

/-- What an index returns is an item with that key. -/
theorem mem_of_get?_index {key : α → κ} {items : List α} {k : κ} {item : α}
    (h : (index key items).get? k = some item) : item ∈ items ∧ key item = k := by
  rw [index, get?_ofList, Option.map_eq_some_iff] at h
  obtain ⟨pair, hfind, hpair⟩ := h
  have hmem := List.mem_of_find?_eq_some hfind
  have hkey := List.find?_some hfind
  simp only [List.mem_reverse, List.mem_map] at hmem
  obtain ⟨x, hx, rfl⟩ := hmem
  simp only [decide_eq_true_eq] at hkey
  exact ⟨hpair ▸ hx, hpair ▸ hkey⟩

/-- An index knows a key exactly when some item has it. -/
theorem index_has_iff (key : α → κ) (items : List α) (k : κ) :
    (index key items).has k = true ↔ ∃ item ∈ items, key item = k := by
  rw [has, index, get?_ofList, Option.isSome_map, List.find?_isSome]
  simp

/-- When keys tell the items apart, an index returns each item under its key. -/
theorem get?_index_iff {key : α → κ} {items : List α} (hkeys : (items.map key).Nodup)
    {k : κ} {item : α} : (index key items).get? k = some item ↔ item ∈ items ∧ key item = k := by
  refine ⟨mem_of_get?_index, fun ⟨hmem, hk⟩ => ?_⟩
  have hsome := (index_has_iff key items k).mpr ⟨item, hmem, hk⟩
  obtain ⟨other, hother⟩ := Option.isSome_iff_exists.mp hsome
  obtain ⟨hother', hk'⟩ := mem_of_get?_index hother
  rw [hother, List.inj_on_of_nodup_map hkeys hother' hmem (hk'.trans hk.symm)]

/-- When the pairs have distinct keys, a built map holds exactly the pairs. -/
theorem get?_ofList_iff {pairs : List (κ × α)} (hkeys : (pairs.map Prod.fst).Nodup) {k : κ} {v : α} :
    (ofList pairs).get? k = some v ↔ (k, v) ∈ pairs := by
  rw [get?_ofList, Option.map_eq_some_iff]
  constructor
  · rintro ⟨pair, hfind, rfl⟩
    have hkey := List.find?_some hfind
    simp only [decide_eq_true_eq] at hkey
    exact hkey ▸ List.mem_reverse.mp (List.mem_of_find?_eq_some hfind)
  · intro hmem
    have hsome : (pairs.reverse.find? fun pair => pair.1 = k).isSome := by
      rw [List.find?_isSome]
      exact ⟨(k, v), List.mem_reverse.mpr hmem, by simp⟩
    obtain ⟨pair, hpair⟩ := Option.isSome_iff_exists.mp hsome
    have hkey := List.find?_some hpair
    simp only [decide_eq_true_eq] at hkey
    have hpair' := List.mem_reverse.mp (List.mem_of_find?_eq_some hpair)
    exact ⟨pair, hpair, by rw [List.inj_on_of_nodup_map hkeys hpair' hmem hkey]⟩

/-- A built map has no value under a key that no pair has. -/
theorem get?_ofList_eq_none {pairs : List (κ × α)} {k : κ} (h : k ∉ pairs.map Prod.fst) :
    (ofList pairs).get? k = none := by
  rw [get?_ofList, Option.map_eq_none_iff, List.find?_eq_none]
  intro pair hpair hk
  simp only [decide_eq_true_eq] at hk
  exact h (List.mem_map.mpr ⟨pair, List.mem_reverse.mp hpair, hk⟩)

/-- What a partial map adds for each item, looked up by the item's key. -/
theorem get?_ofList_filterMap {γ : Type*} {items : List α} {key : α → κ}
    (hkeys : (items.map key).Nodup) {f : α → Option β} {pair : β → κ × γ}
    (hf : ∀ a b, f a = some b → (pair b).1 = key a) {a : α} (ha : a ∈ items) :
    (ofList ((items.filterMap f).map pair)).get? (key a) = (f a).map fun b => (pair b).2 := by
  cases hfa : f a with
  | none =>
    refine get?_ofList_eq_none fun hmem => ?_
    rw [List.map_map] at hmem
    obtain ⟨b, hb, hk⟩ := List.mem_map.mp hmem
    obtain ⟨a', ha', hfb⟩ := List.mem_filterMap.mp hb
    have hsame := List.inj_on_of_nodup_map hkeys ha' ha ((hf a' b hfb).symm.trans hk)
    rw [hsame, hfa] at hfb
    cases hfb
  | some b =>
    rw [Option.map_some, get?_ofList_iff]
    · rw [← hf a b hfa]
      exact List.mem_map.mpr ⟨b, List.mem_filterMap.mpr ⟨a, ha, hfa⟩, rfl⟩
    · rw [List.map_map]
      exact hkeys.sublist (filterMap_map_sublist hf items)

/-- Indexing changed items that kept their keys changes what is looked up. -/
theorem get?_index_map {key : α → κ} {f : α → α} (hf : ∀ item, key (f item) = key item)
    (items : List α) (k : κ) :
    (index key (items.map f)).get? k = ((index key items).get? k).map f := by
  simp only [index, get?_ofList, List.map_map, ← List.map_reverse, List.find?_map, Option.map_map]
  simp [Function.comp_def, hf]

end KeyedMap

end InternalControl
