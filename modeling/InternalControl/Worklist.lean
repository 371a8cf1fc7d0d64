import Mathlib

/-!
# What a worklist reaches

A search that takes a node from a stack, skips it when it was met before, and
puts its children on the stack. With enough turns it lists what the edges
reach from the nodes it starts with.
-/

namespace InternalControl.Worklist

variable {κ : Type} [DecidableEq κ]

/-- The turns of the search: the stack, its top first, and the nodes met. -/
def search (children : κ → List κ) : ℕ → List κ → List κ → List κ
  | 0, _, met => met
  | _ + 1, [], met => met
  | n + 1, node :: stack, met =>
    if node ∈ met then search children n stack met
    else search children n ((children node).reverse ++ stack) (met ++ [node])

/-- The nodes that a search met, from nodes put on the stack in order. -/
def reached (children : κ → List κ) (turns : ℕ) (start : List κ) : List κ :=
  search children turns start.reverse []

/-- One node is a child of the other. -/
def Child (children : κ → List κ) (parent child : κ) : Prop := child ∈ children parent

section Soundness

variable {children : κ → List κ}

/-- What a search meets was met before or is reached from its stack. -/
theorem reachable_of_mem_search {n : ℕ} {stack met : List κ} {x : κ}
    (h : x ∈ search children n stack met) :
    x ∈ met ∨ ∃ node ∈ stack, Relation.ReflTransGen (Child children) node x := by
  induction n generalizing stack met with
  | zero => exact Or.inl h
  | succ n ih =>
    cases stack with
    | nil => exact Or.inl h
    | cons node stack =>
      rw [search] at h
      split at h
      · rcases ih h with hmet | ⟨start, hstart, hr⟩
        · exact Or.inl hmet
        · exact Or.inr ⟨start, List.mem_cons_of_mem _ hstart, hr⟩
      · rcases ih h with hmet | ⟨start, hstart, hr⟩
        · rcases List.mem_append.mp hmet with hmet | hnode
          · exact Or.inl hmet
          · rw [List.mem_singleton.mp hnode]
            exact Or.inr ⟨node, List.mem_cons_self .., Relation.ReflTransGen.refl⟩
        · rcases List.mem_append.mp hstart with hchild | hstart
          · exact Or.inr ⟨node, List.mem_cons_self .., hr.head (List.mem_reverse.mp hchild)⟩
          · exact Or.inr ⟨start, List.mem_cons_of_mem _ hstart, hr⟩

end Soundness

section Completeness

variable {children : κ → List κ}

/-- The children of listed nodes that were not met yet, counted. -/
def pending (children : κ → List κ) (nodes met : List κ) : ℕ :=
  (nodes.map fun node => if node ∈ met then 0 else (children node).length).sum

/-- Nodes with few children have few pending. -/
theorem pending_le {nodes met : List κ} {k : ℕ} (h : ∀ node, (children node).length ≤ k) :
    pending children nodes met ≤ nodes.length * k := by
  unfold pending
  induction nodes with
  | nil => simp
  | cons node rest ih =>
    rw [List.map_cons, List.sum_cons, List.length_cons, Nat.succ_mul]
    have hnode := h node
    split <;> omega

/-- Meeting a listed node leaves its children out of the count. -/
theorem pending_append {nodes met : List κ} {node : κ} (hnodup : nodes.Nodup)
    (hmem : node ∈ nodes) (hnew : node ∉ met) :
    pending children nodes met = (children node).length + pending children nodes (met ++ [node]) := by
  unfold pending
  induction nodes with
  | nil => cases hmem
  | cons first rest ih =>
    obtain ⟨hfirst, hrest⟩ := List.nodup_cons.mp hnodup
    rw [List.map_cons, List.map_cons, List.sum_cons, List.sum_cons]
    rcases List.mem_cons.mp hmem with rfl | hmem
    · have hsame : (rest.map fun other => if other ∈ met ++ [node] then 0
          else (children other).length) =
          rest.map fun other => if other ∈ met then 0 else (children other).length := by
        refine List.map_congr_left fun other hother => ?_
        have hne : other ≠ node := fun he => hfirst (he ▸ hother)
        simp [hne]
      rw [hsame, if_neg hnew, if_pos (List.mem_append_right _ (List.mem_singleton_self node))]
      omega
    · have hne : first ≠ node := fun he => hfirst (he ▸ hmem)
      have hfirstMet : (first ∈ met ++ [node]) = (first ∈ met) := by simp [hne]
      have hcount := ih hrest hmem
      simp only [hfirstMet]
      omega

/-- With enough turns a search meets its stack, and with a node its children. -/
theorem search_closed {nodes : List κ} (hnodup : nodes.Nodup)
    (hchildren : ∀ node, ∀ child ∈ children node, child ∈ nodes) {n : ℕ} {stack met : List κ}
    (hstack : ∀ node ∈ stack, node ∈ nodes)
    (hn : stack.length + pending children nodes met < n)
    (hmet : ∀ node ∈ met, ∀ child ∈ children node, child ∈ met ∨ child ∈ stack) :
    (∀ node ∈ met, node ∈ search children n stack met) ∧
      (∀ node ∈ stack, node ∈ search children n stack met) ∧
      ∀ node ∈ search children n stack met, ∀ child ∈ children node,
        child ∈ search children n stack met := by
  induction n generalizing stack met with
  | zero => omega
  | succ n ih =>
    cases stack with
    | nil =>
      refine ⟨fun _ h => h, fun _ h => (List.not_mem_nil h).elim, fun node h child hchild => ?_⟩
      rcases hmet node h child hchild with h | h
      · exact h
      · cases h
    | cons node stack =>
      rw [search]
      split
      · next hnode =>
        have hrest : stack.length + pending children nodes met < n := by
          rw [List.length_cons] at hn
          omega
        obtain ⟨hkeep, hall, hclosed⟩ :=
          ih (fun other hother => hstack other (List.mem_cons_of_mem _ hother)) hrest
            (by
              intro other hother child hchild
              rcases hmet other hother child hchild with h | h
              · exact Or.inl h
              · rcases List.mem_cons.mp h with rfl | h
                · exact Or.inl hnode
                · exact Or.inr h)
        refine ⟨hkeep, fun other hother => ?_, hclosed⟩
        rcases List.mem_cons.mp hother with rfl | hother
        · exact hkeep other hnode
        · exact hall other hother
      · next hnode =>
        have hlisted : node ∈ nodes := hstack node (List.mem_cons_self ..)
        have hpending : pending children nodes met =
            (children node).length + pending children nodes (met ++ [node]) :=
          pending_append hnodup hlisted hnode
        have hrest : ((children node).reverse ++ stack).length +
            pending children nodes (met ++ [node]) < n := by
          rw [List.length_append, List.length_reverse]
          rw [List.length_cons] at hn
          omega
        obtain ⟨hkeep, hall, hclosed⟩ :=
          ih (by
              intro other hother
              rcases List.mem_append.mp hother with h | h
              · exact hchildren node other (List.mem_reverse.mp h)
              · exact hstack other (List.mem_cons_of_mem _ h)) hrest
            (by
              intro other hother child hchild
              rcases List.mem_append.mp hother with h | h
              · rcases hmet other h child hchild with h | h
                · exact Or.inl (List.mem_append_left _ h)
                · rcases List.mem_cons.mp h with rfl | h
                  · exact Or.inl (List.mem_append_right _ (List.mem_singleton_self _))
                  · exact Or.inr (List.mem_append_right _ h)
              · rw [List.mem_singleton.mp h] at hchild
                exact Or.inr (List.mem_append_left _ (List.mem_reverse.mpr hchild)))
        refine ⟨fun other hother => hkeep other (List.mem_append_left _ hother),
          fun other hother => ?_, hclosed⟩
        rcases List.mem_cons.mp hother with rfl | hother
        · exact hkeep other (List.mem_append_right _ (List.mem_singleton_self _))
        · exact hall other (List.mem_append_right _ hother)

/-- With as many turns as it may need, a search lists what its start reaches. -/
theorem mem_reached_iff {nodes : List κ} (hnodup : nodes.Nodup)
    (hchildren : ∀ node, ∀ child ∈ children node, child ∈ nodes) {turns : ℕ} {start : List κ}
    (hstart : ∀ node ∈ start, node ∈ nodes)
    (hturns : start.length + pending children nodes [] < turns) {x : κ} :
    x ∈ reached children turns start ↔
      ∃ node ∈ start, Relation.ReflTransGen (Child children) node x := by
  unfold reached
  constructor
  · intro h
    rcases reachable_of_mem_search h with h | ⟨node, hnode, hr⟩
    · cases h
    · exact ⟨node, List.mem_reverse.mp hnode, hr⟩
  · rintro ⟨node, hnode, hr⟩
    have hlisted : ∀ other ∈ start.reverse, other ∈ nodes :=
      fun other hother => hstart other (List.mem_reverse.mp hother)
    have hlength : start.reverse.length + pending children nodes [] < turns := by
      rwa [List.length_reverse]
    have hnone : ∀ other ∈ ([] : List κ), ∀ child ∈ children other,
        child ∈ ([] : List κ) ∨ child ∈ start.reverse := fun _ h => (List.not_mem_nil h).elim
    have hclosed := search_closed hnodup hchildren hlisted hlength hnone
    induction hr with
    | refl => exact hclosed.2.1 node (List.mem_reverse.mpr hnode)
    | tail _ hstep ih => exact hclosed.2.2 _ ih _ hstep

end Completeness

end InternalControl.Worklist
