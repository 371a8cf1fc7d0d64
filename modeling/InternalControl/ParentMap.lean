import Mathlib.Data.Finset.Card
import Mathlib.Data.List.Basic
import Mathlib.Data.Nat.Find
import Mathlib.Logic.Relation
import Mathlib.Logic.Function.Basic
import Mathlib.Tactic.Common

/-!
# Parent maps, loops and greedy settlement of proposed parents

A parent map gives every node at most one parent. Loops are stated through
the transitive closure of the parent edge; walks that count their steps are
related to it. The settlement loop visits proposed parents in order and puts
an old parent back when a caller's test fires; when its result is free of
loops is decided here for every test, bounded or not.
-/

namespace InternalControl.ParentMap

variable {κ : Type*}

/-- One step upwards in a parent map. -/
def Edge (parents : κ → Option κ) (child parent : κ) : Prop := parents child = some parent

/-- The second node is the first one or lies above it. -/
def Reaches (parents : κ → Option κ) : κ → κ → Prop := Relation.ReflTransGen (Edge parents)

/-- The node lies above itself. -/
def OnLoop (parents : κ → Option κ) (node : κ) : Prop :=
  Relation.TransGen (Edge parents) node node

/-- No node lies above itself, at any distance. -/
def Acyclic (parents : κ → Option κ) : Prop := ∀ node, ¬OnLoop parents node

/-- The ancestor reached after exactly the given number of steps. -/
def climb (parents : κ → Option κ) : ℕ → κ → Option κ
  | 0, node => some node
  | n + 1, node => (parents node).bind (climb parents n)

@[simp] theorem climb_zero (parents : κ → Option κ) (node : κ) :
    climb parents 0 node = some node := rfl

theorem climb_succ (parents : κ → Option κ) (n : ℕ) (node : κ) :
    climb parents (n + 1) node = (parents node).bind (climb parents n) := rfl

/-- Climbing in two stretches is climbing their total. -/
theorem climb_add (parents : κ → Option κ) (m n : ℕ) (node : κ) :
    climb parents (m + n) node = (climb parents m node).bind (climb parents n) := by
  induction m generalizing node with
  | zero => simp
  | succ m ih =>
    rw [Nat.succ_add, climb_succ, climb_succ]
    cases h : parents node with
    | none => rfl
    | some parent => simpa using ih parent

/-- A node is strictly above another exactly at some positive distance. -/
theorem transGen_iff_climb (parents : κ → Option κ) (a b : κ) :
    Relation.TransGen (Edge parents) a b ↔ ∃ n, climb parents (n + 1) a = some b := by
  constructor
  · intro h
    induction h with
    | single h => exact ⟨0, by rw [climb_succ, h]; rfl⟩
    | tail _ h ih =>
      obtain ⟨n, hn⟩ := ih
      refine ⟨n + 1, ?_⟩
      rw [climb_add parents (n + 1) 1, hn]
      have hstep : parents _ = some _ := h
      simp [climb_succ, hstep]
  · rintro ⟨n, hn⟩
    induction n generalizing a with
    | zero =>
      refine Relation.TransGen.single ?_
      cases h : parents a with
      | none => simp [climb_succ, h] at hn
      | some parent => simpa [climb_succ, h, Edge] using hn
    | succ n ih =>
      rw [climb_succ] at hn
      cases h : parents a with
      | none => simp [h] at hn
      | some parent =>
        rw [h] at hn
        exact Relation.TransGen.head h (ih parent hn)

/-- A loop is a return after a positive number of steps. -/
theorem onLoop_iff_climb (parents : κ → Option κ) (node : κ) :
    OnLoop parents node ↔ ∃ n, climb parents (n + 1) node = some node :=
  transGen_iff_climb parents node node

/-- Whatever is reached from a node on a loop reaches it back: a node has
only one way up. -/
theorem Reaches.back_of_onLoop {parents : κ → Option κ} {a b : κ}
    (hr : Reaches parents a b) (hl : OnLoop parents a) : Reaches parents b a := by
  induction hr with
  | refl => exact Relation.ReflTransGen.refl
  | tail _ hstep ih =>
    obtain hab | ⟨c, hedge, hrest⟩ := Relation.ReflTransGen.cases_head ih
    · subst hab
      obtain ⟨d, hd, hrest⟩ := Relation.TransGen.head'_iff.mp hl
      have he := Option.some.inj (hd.symm.trans hstep)
      exact he ▸ hrest
    · have he := Option.some.inj (hedge.symm.trans hstep)
      exact he ▸ hrest

/-- Every node reached from a loop lies on it. -/
theorem OnLoop.of_reaches {parents : κ → Option κ} {a b : κ}
    (hl : OnLoop parents a) (hr : Reaches parents a b) : OnLoop parents b := by
  have hback := hr.back_of_onLoop hl
  exact Relation.TransGen.trans_right hback (Relation.TransGen.trans_left hl hr)

/-- A way up survives in every map that agrees with the first on it. -/
theorem Reaches.congr {parents other : κ → Option κ} {a b : κ}
    (hr : Reaches parents a b) (hagree : ∀ x, Reaches parents a x → parents x = other x) :
    Reaches other a b := by
  induction hr with
  | refl => exact Relation.ReflTransGen.refl
  | tail hpath hstep ih =>
    exact ih.tail ((hagree _ hpath).symm.trans hstep)

/-- A loop survives in every map that agrees with the first on it. -/
theorem OnLoop.congr {parents other : κ → Option κ} {a : κ}
    (hl : OnLoop parents a) (hagree : ∀ x, Reaches parents a x → parents x = other x) :
    OnLoop other a := by
  obtain ⟨b, hstep, hrest⟩ := Relation.TransGen.head'_iff.mp hl
  have hb : Reaches other b a := Reaches.congr hrest
    (fun x hx => hagree x (Relation.ReflTransGen.head hstep hx))
  exact Relation.TransGen.head' ((hagree a Relation.ReflTransGen.refl).symm.trans hstep) hb

/-- Fewer edges make no new loop. -/
theorem Acyclic.mono {parents other : κ → Option κ} (ha : Acyclic parents)
    (hsub : ∀ a b, other a = some b → parents a = some b) : Acyclic other := by
  intro node hl
  exact ha node (Relation.TransGen.mono (fun a b h => hsub a b h) node node hl)

/-- Parents that always come earlier under some rank have no loop. -/
theorem acyclic_of_rank {α : Type*} [Preorder α] {parents : κ → Option κ} (rank : κ → α)
    (h : ∀ a b, parents a = some b → rank b < rank a) : Acyclic parents := by
  have hpath : ∀ a b, Relation.TransGen (Edge parents) a b → rank b < rank a := by
    intro a b hab
    induction hab with
    | single hab => exact h _ _ hab
    | tail _ hbc ih => exact (h _ _ hbc).trans ih
  exact fun node hl => lt_irrefl _ (hpath node node hl)

/-- Without loops a node is not met again on the way up. -/
theorem Acyclic.climb_ne {parents : κ → Option κ} (ha : Acyclic parents) {a b : κ} {m n : ℕ}
    (hm : climb parents m a = some b) (hmn : m < n) : climb parents n a ≠ some b := by
  intro hn
  obtain ⟨d, rfl⟩ := Nat.exists_eq_add_of_lt hmn
  rw [Nat.add_assoc, climb_add, hm] at hn
  exact ha b ((onLoop_iff_climb parents b).mpr ⟨d, hn⟩)

/-- Without loops a way up through listed nodes is shorter than the list. -/
theorem Acyclic.lt_length_of_climb [DecidableEq κ] {parents : κ → Option κ} (ha : Acyclic parents)
    {nodes : List κ} {a : κ} {n : ℕ}
    (hnodes : ∀ m ≤ n, ∃ b ∈ nodes, climb parents m a = some b) : n < nodes.length := by
  have : Nonempty κ := ⟨a⟩
  choose! node hnode using hnodes
  have hcard : (Finset.range (n + 1)).card ≤ nodes.toFinset.card := by
    refine Finset.card_le_card_of_injOn node ?_ ?_
    · intro m hm
      exact List.mem_toFinset.mpr (hnode m (Nat.le_of_lt_succ (Finset.mem_range.mp hm))).1
    · intro m hm m' hm' he
      have hle := Nat.le_of_lt_succ (Finset.mem_range.mp hm)
      have hle' := Nat.le_of_lt_succ (Finset.mem_range.mp hm')
      rcases lt_trichotomy m m' with h | h | h
      · exact absurd ((hnode m' hle').2.trans (congrArg some he.symm))
          (ha.climb_ne (hnode m hle).2 h)
      · exact h
      · exact absurd ((hnode m hle).2.trans (congrArg some he))
          (ha.climb_ne (hnode m' hle').2 h)
  rw [Finset.card_range] at hcard
  exact Nat.lt_of_succ_le (hcard.trans nodes.toFinset_card_le)

section BoundedWalk

variable [DecidableEq κ]

/-- Walk upwards from a start, at most `n` nodes, looking for the target. -/
def meetsWithin (parents : κ → Option κ) (target : κ) : ℕ → Option κ → Bool
  | _, none => false
  | 0, some _ => false
  | n + 1, some current => current == target || meetsWithin parents target n (parents current)

/-- The bounded walk meets exactly the nodes at a distance below its bound. -/
theorem meetsWithin_iff (parents : κ → Option κ) (target : κ) (n : ℕ) (start : Option κ) :
    meetsWithin parents target n start = true ↔
      ∃ m < n, start.bind (climb parents m) = some target := by
  induction n generalizing start with
  | zero => cases start <;> simp [meetsWithin]
  | succ n ih =>
    cases start with
    | none => simp [meetsWithin]
    | some current =>
      rw [meetsWithin, Bool.or_eq_true, beq_iff_eq, ih]
      constructor
      · rintro (rfl | ⟨m, hm, hclimb⟩)
        · exact ⟨0, Nat.succ_pos n, rfl⟩
        · exact ⟨m + 1, Nat.succ_lt_succ hm, hclimb⟩
      · rintro ⟨m, hm, hclimb⟩
        cases m with
        | zero => exact Or.inl (Option.some.inj hclimb)
        | succ m => exact Or.inr ⟨m, Nat.lt_of_succ_lt_succ hm, hclimb⟩

/-- A walk started at a node's parent meets the node only on a loop. -/
theorem onLoop_of_meetsWithin {parents : κ → Option κ} {node : κ} {n : ℕ}
    (h : meetsWithin parents node n (parents node) = true) : OnLoop parents node := by
  obtain ⟨m, _, hclimb⟩ := (meetsWithin_iff parents node n _).mp h
  exact (onLoop_iff_climb parents node).mpr ⟨m, hclimb⟩

end BoundedWalk

section Walk

/-- The nodes on the way up from a start, at most `n` of them. -/
def walk (parents : κ → Option κ) : ℕ → Option κ → List κ
  | _, none => []
  | 0, some _ => []
  | n + 1, some current => current :: walk parents n (parents current)

/-- A bounded walk lists the nodes at a distance below its bound. -/
theorem mem_walk_iff (parents : κ → Option κ) (n : ℕ) (start : Option κ) (x : κ) :
    x ∈ walk parents n start ↔ ∃ m < n, start.bind (climb parents m) = some x := by
  induction n generalizing start with
  | zero => cases start <;> simp [walk]
  | succ n ih =>
    cases start with
    | none => simp [walk]
    | some current =>
      rw [walk, List.mem_cons, ih]
      constructor
      · rintro (rfl | ⟨m, hm, hclimb⟩)
        · exact ⟨0, Nat.succ_pos n, rfl⟩
        · exact ⟨m + 1, Nat.succ_lt_succ hm, hclimb⟩
      · rintro ⟨m, hm, hclimb⟩
        cases m with
        | zero => exact Or.inl (Option.some.inj hclimb).symm
        | succ m => exact Or.inr ⟨m, Nat.lt_of_succ_lt_succ hm, hclimb⟩

/-- What is reached is reached in some number of steps. -/
theorem reaches_iff_climb (parents : κ → Option κ) (a b : κ) :
    Reaches parents a b ↔ ∃ n, climb parents n a = some b := by
  unfold Reaches
  rw [Relation.reflTransGen_iff_eq_or_transGen, transGen_iff_climb]
  constructor
  · rintro (rfl | ⟨n, hn⟩)
    · exact ⟨0, rfl⟩
    · exact ⟨n + 1, hn⟩
  · rintro ⟨n, hn⟩
    cases n with
    | zero => exact Or.inl (Option.some.inj hn).symm
    | succ n => exact Or.inr ⟨n, hn⟩

/-- A node that is reached through listed nodes is met within as many steps as
the list is long: the shortest way up meets no node twice. -/
theorem exists_climb_lt {parents : κ → Option κ} {nodes : List κ} {a b : κ}
    (hr : Reaches parents a b) (hnodes : ∀ x, Reaches parents a x → x ∈ nodes) :
    ∃ m < nodes.length, climb parents m a = some b := by
  classical
  have hex := (reaches_iff_climb parents a b).mp hr
  obtain ⟨n, hn, hleast⟩ : ∃ n, climb parents n a = some b ∧
      ∀ m < n, climb parents m a ≠ some b :=
    ⟨Nat.find hex, Nat.find_spec hex, fun m hm => Nat.find_min hex hm⟩
  have hsome : ∀ m ≤ n, ∃ x, climb parents m a = some x := by
    intro m hm
    obtain ⟨d, rfl⟩ := Nat.exists_eq_add_of_le hm
    rw [climb_add] at hn
    obtain ⟨x, hx, _⟩ := Option.bind_eq_some_iff.mp hn
    exact ⟨x, hx⟩
  have : Nonempty κ := ⟨a⟩
  choose! node hnode using hsome
  -- two visits to one node would make the way up shorter
  have hne : ∀ i j, i < j → j ≤ n → node i ≠ node j := by
    intro i j hij hjn he
    have hshort : climb parents (i + (n - j)) a = some b := by
      have hlong : climb parents (j + (n - j)) a = some b := by
        rw [Nat.add_sub_cancel' hjn]
        exact hn
      rw [climb_add, hnode j hjn] at hlong
      rw [climb_add, hnode i (by omega), he]
      exact hlong
    exact hleast _ (by omega) hshort
  have hcard : (Finset.range (n + 1)).card ≤ nodes.toFinset.card := by
    refine Finset.card_le_card_of_injOn node ?_ ?_
    · intro m hm
      have hle := Nat.le_of_lt_succ (Finset.mem_range.mp hm)
      have hreach := (reaches_iff_climb parents a (node m)).mpr ⟨m, hnode m hle⟩
      exact List.mem_toFinset.mpr (hnodes _ hreach)
    · intro i hi j hj he
      have hi := Nat.le_of_lt_succ (Finset.mem_range.mp hi)
      have hj := Nat.le_of_lt_succ (Finset.mem_range.mp hj)
      rcases lt_trichotomy i j with h | h | h
      · exact absurd he (hne i j h hj)
      · exact h
      · exact absurd he.symm (hne j i h hi)
  rw [Finset.card_range] at hcard
  exact ⟨n, Nat.lt_of_succ_le (hcard.trans nodes.toFinset_card_le), hn⟩

/-- A walk that may take as many steps as there are nodes lists what is reached. -/
theorem mem_walk_iff_reaches {parents : κ → Option κ} {nodes : List κ} {a b : κ}
    {n : ℕ} (hnodes : ∀ x, Reaches parents a x → x ∈ nodes) (hn : nodes.length ≤ n) :
    b ∈ walk parents n (some a) ↔ Reaches parents a b := by
  rw [mem_walk_iff]
  constructor
  · rintro ⟨m, _, hclimb⟩
    exact (reaches_iff_climb parents a b).mpr ⟨m, hclimb⟩
  · intro hr
    obtain ⟨m, hm, hclimb⟩ := exists_climb_lt hr hnodes
    exact ⟨m, Nat.lt_of_lt_of_le hm hn, hclimb⟩

end Walk

section Changes

variable {before after : κ → Option κ} {a b : κ}

/-- A way up in a changed map was there before, or it meets a node whose edge
was checked: the first such node was reached before the change too. -/
theorem Reaches.before_or_checked {checked : κ → Prop}
    (hedge : ∀ x y, after x = some y → before x = some y ∨ checked x)
    (h : Reaches after a b) :
    Reaches before a b ∨
      ∃ c, checked c ∧ Reaches before a c ∧ Reaches after a c ∧ Reaches after c b := by
  induction h using Relation.ReflTransGen.head_induction_on with
  | refl => exact Or.inl Relation.ReflTransGen.refl
  | head hstep hrest ih =>
    rename_i x y
    rcases hedge x y hstep with hold | hchecked
    · rcases ih with hbefore | ⟨c, hc, hbefore, hafter, hmeet⟩
      · exact Or.inl (hbefore.head hold)
      · exact Or.inr ⟨c, hc, hbefore.head hold, hafter.head hstep, hmeet⟩
    · have hself : Reaches before x x := Relation.ReflTransGen.refl
      exact Or.inr ⟨x, hchecked, hself, Relation.ReflTransGen.refl, hrest.head hstep⟩

/-- When one edge alone is new, a way up was there before, or the new edge
joins two stretches that were. -/
theorem Reaches.before_or_joined {node parent : κ}
    (hedge : ∀ x y, after x = some y → before x = some y ∨ x = node ∧ y = parent)
    (h : Reaches after a b) :
    Reaches before a b ∨ Reaches before a node ∧ Reaches before parent b := by
  induction h with
  | refl => exact Or.inl Relation.ReflTransGen.refl
  | tail _ hstep ih =>
    rcases hedge _ _ hstep with hold | ⟨rfl, rfl⟩
    · rcases ih with hbefore | ⟨hnode, hparent⟩
      · exact Or.inl (hbefore.tail hold)
      · exact Or.inr ⟨hnode, hparent.tail hold⟩
    · rcases ih with hbefore | ⟨hnode, _⟩
      · exact Or.inr ⟨hbefore, Relation.ReflTransGen.refl⟩
      · exact Or.inr ⟨hnode, Relation.ReflTransGen.refl⟩

end Changes

section Settlement

variable [DecidableEq κ]

/-- One turn of the settlement: the test decides whether the node gets its
old parent back. -/
def turn (closes : (κ → Option κ) → κ → Bool) (old parents : κ → Option κ) (node : κ) :
    κ → Option κ :=
  if closes parents node then Function.update parents node (old node) else parents

/-- Visit the nodes in order, one turn each. -/
def settle (closes : (κ → Option κ) → κ → Bool) (old : κ → Option κ) :
    (κ → Option κ) → List κ → κ → Option κ
  | parents, [] => parents
  | parents, node :: rest => settle closes old (turn closes old parents node) rest

/-- The visited nodes that got their old parent back. -/
def rejected (closes : (κ → Option κ) → κ → Bool) (old : κ → Option κ) :
    (κ → Option κ) → List κ → List κ
  | _, [] => []
  | parents, node :: rest =>
    if closes parents node then node :: rejected closes old (turn closes old parents node) rest
    else rejected closes old (turn closes old parents node) rest

/-- No turn leaves its node on a loop whose nodes have all had their turn. -/
def TurnsClear (closes : (κ → Option κ) → κ → Bool) (old : κ → Option κ) :
    (κ → Option κ) → List κ → Prop
  | _, [] => True
  | parents, node :: rest =>
    (OnLoop (turn closes old parents node) node →
      ∃ pending ∈ rest, Reaches (turn closes old parents node) node pending) ∧
    TurnsClear closes old (turn closes old parents node) rest

variable {closes : (κ → Option κ) → κ → Bool} {old parents : κ → Option κ}

theorem turn_of_ne {node x : κ} (hx : x ≠ node) : turn closes old parents node x = parents x := by
  unfold turn
  split
  · exact Function.update_of_ne hx _ _
  · rfl

theorem turn_self (node : κ) : turn closes old parents node node =
    if closes parents node then old node else parents node := by
  unfold turn
  split <;> simp

/-- A settlement changes no node outside its list. -/
theorem settle_of_notMem {nodes : List κ} {x : κ} (hx : x ∉ nodes) :
    settle closes old parents nodes x = parents x := by
  induction nodes generalizing parents with
  | nil => rfl
  | cons node rest ih =>
    rw [List.mem_cons, not_or] at hx
    rw [settle, ih hx.2, turn_of_ne hx.1]

theorem mem_of_mem_rejected {nodes : List κ} {x : κ}
    (h : x ∈ rejected closes old parents nodes) : x ∈ nodes := by
  induction nodes generalizing parents with
  | nil => simp [rejected] at h
  | cons node rest ih =>
    rw [rejected] at h
    split at h
    · rcases List.mem_cons.mp h with rfl | h
      · exact List.mem_cons_self
      · exact List.mem_cons_of_mem _ (ih h)
    · exact List.mem_cons_of_mem _ (ih h)

/-- Picking the rejected nodes out of the list gives them in the order of rejection. -/
theorem filter_mem_rejected {nodes : List κ} (hnodup : nodes.Nodup) :
    nodes.filter (fun node => node ∈ rejected closes old parents nodes) =
      rejected closes old parents nodes := by
  induction nodes generalizing parents with
  | nil => rfl
  | cons node rest ih =>
    obtain ⟨hnode, hrest⟩ := List.nodup_cons.mp hnodup
    have hfirst : node ∉ rejected closes old (turn closes old parents node) rest :=
      fun h => hnode (mem_of_mem_rejected h)
    rw [rejected]
    by_cases hc : closes parents node = true
    · rw [if_pos hc, List.filter_cons, if_pos (by simp)]
      congr 1
      rw [← ih hrest]
      refine List.filter_congr fun other hother => ?_
      have hne : other ≠ node := fun he => hnode (he ▸ hother)
      rw [ih hrest]
      simp [hne]
    · rw [if_neg hc, List.filter_cons, if_neg (by simpa using hfirst), ih hrest]

/-- Only the old parents of the visited nodes matter to what is rejected. -/
theorem rejected_congr {old' : κ → Option κ} {nodes : List κ}
    (h : ∀ node ∈ nodes, old node = old' node) :
    rejected closes old parents nodes = rejected closes old' parents nodes := by
  induction nodes generalizing parents with
  | nil => rfl
  | cons node rest ih =>
    have hturn : turn closes old parents node = turn closes old' parents node := by
      rw [turn, turn, h node List.mem_cons_self]
    rw [rejected, rejected, hturn, ih fun other hother => h other (List.mem_cons_of_mem _ hother)]

/-- Each settled node ends at its old parent when it was rejected and keeps
the proposed one otherwise. -/
theorem settle_apply {nodes : List κ} (hnodup : nodes.Nodup) (x : κ) :
    settle closes old parents nodes x =
      if x ∈ rejected closes old parents nodes then old x else parents x := by
  induction nodes generalizing parents with
  | nil => simp [settle, rejected]
  | cons node rest ih =>
    obtain ⟨hnode, hrest⟩ := List.nodup_cons.mp hnodup
    rw [settle, ih hrest]
    by_cases hx : x = node
    · subst hx
      have hnot : x ∉ rejected closes old (turn closes old parents x) rest :=
        fun h => hnode (mem_of_mem_rejected h)
      rw [if_neg hnot, turn_self, rejected]
      split <;> simp [hnot]
    · rw [turn_of_ne hx, rejected]
      by_cases hc : closes parents node = true <;> simp [hc, hx]

/-- Settling the rejected nodes alone, from the same proposals, rejects them
all again. -/
theorem rejected_rejected (nodes : List κ) :
    rejected closes old parents (rejected closes old parents nodes) =
      rejected closes old parents nodes := by
  induction nodes generalizing parents with
  | nil => rfl
  | cons node rest ih =>
    by_cases hc : closes parents node = true
    · rw [rejected, if_pos hc, rejected, if_pos hc, ih]
    · have hsame : turn closes old parents node = parents := by simp [turn, hc]
      rw [rejected, if_neg hc, hsame, ih]

/-- A loop made by one turn goes through its node. -/
theorem onLoop_of_turn {node x : κ} (hl : OnLoop (turn closes old parents node) x)
    (havoid : ¬Reaches (turn closes old parents node) x node) : OnLoop parents x :=
  hl.congr (fun _ hy => turn_of_ne (fun he => havoid (he ▸ hy)))

/-- A way up that avoids the settled node survives its turn. -/
theorem reaches_turn {node x y : κ} (hr : Reaches parents x y)
    (havoid : ¬Reaches (turn closes old parents node) x node) :
    Reaches (turn closes old parents node) x y := by
  induction hr with
  | refl => exact Relation.ReflTransGen.refl
  | tail _ hstep ih =>
    refine ih.tail ((turn_of_ne ?_).trans hstep)
    rintro rfl
    exact havoid ih

/-- While every loop still passes through a node to be visited, the end is
free of loops exactly when every turn was clear. -/
theorem acyclic_settle_iff {nodes : List κ}
    (hpending : ∀ x, OnLoop parents x → ∃ node ∈ nodes, Reaches parents x node)
    (hnodup : nodes.Nodup) :
    Acyclic (settle closes old parents nodes) ↔ TurnsClear closes old parents nodes := by
  induction nodes generalizing parents with
  | nil =>
    refine ⟨fun _ => trivial, fun _ x hl => ?_⟩
    obtain ⟨node, hnode, _⟩ := hpending x hl
    cases hnode
  | cons node rest ih =>
    obtain ⟨hnode, hrest⟩ := List.nodup_cons.mp hnodup
    by_cases hclear : OnLoop (turn closes old parents node) node →
        ∃ pending ∈ rest, Reaches (turn closes old parents node) node pending
    · have hnext : ∀ x, OnLoop (turn closes old parents node) x →
          ∃ pending ∈ rest, Reaches (turn closes old parents node) x pending := by
        intro x hl
        by_cases hr : Reaches (turn closes old parents node) x node
        · obtain ⟨pending, hmem, hreach⟩ := hclear (hl.of_reaches hr)
          exact ⟨pending, hmem, hr.trans hreach⟩
        · obtain ⟨pending, hmem, hreach⟩ := hpending x (onLoop_of_turn hl hr)
          have hreach' := reaches_turn hreach hr
          rcases List.mem_cons.mp hmem with rfl | hmem
          · exact absurd hreach' hr
          · exact ⟨pending, hmem, hreach'⟩
      rw [settle, ih hnext hrest, TurnsClear]
      exact ⟨fun h => ⟨hclear, h⟩, fun h => h.2⟩
    · refine ⟨fun ha => ?_, fun h => absurd h.1 hclear⟩
      obtain ⟨hl, hfree⟩ := Classical.not_imp.mp hclear
      -- a loop whose nodes have all had their turn stays to the end
      refine absurd (hl.congr fun x hx => ?_) (ha node)
      exact (settle_of_notMem fun hmem => hfree ⟨x, hmem, hx⟩).symm

end Settlement

end InternalControl.ParentMap
