import InternalControl.JsonText

/-!
# Values up to the order of their keys

Two values are the same up to the order of object keys when one becomes the
other by reordering the entries of objects, at any depth. Sorting the keys
everywhere tells exactly this.
-/

namespace InternalControl.JsonText

/-- One value becomes the other by reordering entries of objects. -/
inductive Reordered : JsValue → JsValue → Prop
  | refl (value : JsValue) : Reordered value value
  | trans {v w u : JsValue} : Reordered v w → Reordered w u → Reordered v u
  /-- The entries of an object in another order. -/
  | permute {xs ys : List (String × JsValue)} : xs.Perm ys → Reordered (.object xs) (.object ys)
  /-- Inside one item of an array. -/
  | item {v w : JsValue} (before after : List JsValue) : Reordered v w →
      Reordered (.array (before ++ v :: after)) (.array (before ++ w :: after))
  /-- Inside one field of an object. -/
  | field {v w : JsValue} (before after : List (String × JsValue)) (key : String) : Reordered v w →
      Reordered (.object (before ++ (key, v) :: after)) (.object (before ++ (key, w) :: after))

theorem Reordered.symm {v w : JsValue} (h : Reordered v w) : Reordered w v := by
  induction h with
  | refl value => exact .refl value
  | trans _ _ ihv ihw => exact ihw.trans ihv
  | permute hperm => exact .permute hperm.symm
  | item before after _ ih => exact .item before after ih
  | field before after key _ ih => exact .field before after key ih

theorem distinctItems_iff (items : List JsValue) :
    DistinctItems items ↔ ∀ value ∈ items, Distinct value := by
  induction items with
  | nil => simp [DistinctItems]
  | cons value rest ih => simp [DistinctItems, ih]

theorem arrangeItems_eq_map (le : String → String → Bool) (items : List JsValue) :
    arrangeItems le items = items.map (arrange le) := by
  induction items with
  | nil => rfl
  | cons value rest ih => rw [arrangeItems, ih, List.map_cons]

mutual

/-- Sorting the keys is a reordering. -/
theorem reordered_arrange (le : String → String → Bool) : ∀ value : JsValue,
    Reordered value (arrange le value)
  | .undefined => .refl _
  | .null => .refl _
  | .bool _ => .refl _
  | .number _ => .refl _
  | .notFinite => .refl _
  | .string _ => .refl _
  | .date _ => .refl _
  | .array items => reordered_arrangeItems le [] items
  | .object fields =>
    (reordered_arrangeFields le [] fields).trans (.permute (List.perm_insertionSort _ _).symm)

theorem reordered_arrangeItems (le : String → String → Bool) (before : List JsValue) :
    ∀ items : List JsValue,
      Reordered (.array (before ++ items)) (.array (before ++ arrangeItems le items))
  | [] => .refl _
  | value :: rest => by
    have hfirst := Reordered.item before rest (reordered_arrange le value)
    have hrest := reordered_arrangeItems le (before ++ [arrange le value]) rest
    rw [List.append_assoc, List.append_assoc] at hrest
    exact hfirst.trans hrest

theorem reordered_arrangeFields (le : String → String → Bool) (before : List (String × JsValue)) :
    ∀ fields : List (String × JsValue),
      Reordered (.object (before ++ fields)) (.object (before ++ arrangeFields le fields))
  | [] => .refl _
  | (key, value) :: rest => by
    have hfirst := Reordered.field before rest key (reordered_arrange le value)
    have hrest := reordered_arrangeFields le (before ++ [(key, arrange le value)]) rest
    rw [List.append_assoc, List.append_assoc] at hrest
    exact hfirst.trans hrest

end

section KeyOrder

variable {le : String → String → Bool}

/-- A reordering keeps the keys distinct and leaves the sorted form as it is. -/
theorem Reordered.arrange_eq (hle : KeyOrder le) {v w : JsValue} (h : Reordered v w)
    (hdistinct : Distinct v) : Distinct w ∧ arrange le v = arrange le w := by
  induction h with
  | refl value => exact ⟨hdistinct, rfl⟩
  | trans _ _ ihv ihw =>
    obtain ⟨hmiddle, hfirst⟩ := ihv hdistinct
    obtain ⟨hlast, hsecond⟩ := ihw hmiddle
    exact ⟨hlast, hfirst.trans hsecond⟩
  | @permute xs ys hperm =>
    have hkeys : (ys.map Prod.fst).Nodup := (hperm.map Prod.fst).nodup_iff.mp hdistinct.1
    have hfields : DistinctFields ys := by
      rw [distinctFields_iff]
      exact fun entry hentry => (distinctFields_iff xs).mp hdistinct.2 entry (hperm.mem_iff.mpr hentry)
    have hsorted := insertionSort_eq_of_perm hle
      (by rw [arrangeFields_eq_map, arrangeFields_eq_map]; exact hperm.map _ :
        (arrangeFields le xs).Perm (arrangeFields le ys))
      (by rw [arrangeFields_keys]; exact hdistinct.1)
    exact ⟨⟨hkeys, hfields⟩, by rw [arrange, arrange, hsorted]⟩
  | @item v w before after _ ih =>
    have hitems := (distinctItems_iff _).mp hdistinct
    obtain ⟨hw, harrange⟩ := ih (hitems v (by simp))
    refine ⟨(distinctItems_iff _).mpr fun value hvalue => ?_, ?_⟩
    · rcases List.mem_append.mp hvalue with hbefore | hvalue
      · exact hitems value (List.mem_append_left _ hbefore)
      · rcases List.mem_cons.mp hvalue with rfl | hafter
        · exact hw
        · exact hitems value (List.mem_append_right _ (List.mem_cons_of_mem _ hafter))
    · rw [arrange, arrange, arrangeItems_eq_map, arrangeItems_eq_map, List.map_append,
        List.map_append, List.map_cons, List.map_cons, harrange]
  | @field v w before after key _ ih =>
    have hfields := (distinctFields_iff _).mp hdistinct.2
    obtain ⟨hw, harrange⟩ := ih (hfields (key, v) (by simp))
    refine ⟨⟨?_, (distinctFields_iff _).mpr fun entry hentry => ?_⟩, ?_⟩
    · have hkeys := hdistinct.1
      rw [List.map_append, List.map_cons] at hkeys ⊢
      exact hkeys
    · rcases List.mem_append.mp hentry with hbefore | hentry
      · exact hfields entry (List.mem_append_left _ hbefore)
      · rcases List.mem_cons.mp hentry with rfl | hafter
        · exact hw
        · exact hfields entry (List.mem_append_right _ (List.mem_cons_of_mem _ hafter))
    · rw [arrange, arrange, arrangeFields_eq_map, arrangeFields_eq_map, List.map_append,
        List.map_append, List.map_cons, List.map_cons, harrange]

/-- Values are the same up to the order of keys exactly when they are sorted alike. -/
theorem arrange_eq_iff (hle : KeyOrder le) {v w : JsValue} (hv : Distinct v) :
    arrange le v = arrange le w ↔ Reordered v w := by
  refine ⟨fun h => ?_, fun h => (h.arrange_eq hle hv).2⟩
  have hsorted := reordered_arrange le v
  rw [h] at hsorted
  exact hsorted.trans (reordered_arrange le w).symm

end KeyOrder

end InternalControl.JsonText
