import Mathlib
import SceneCompiler.Proofs.Tree.Walk
/-!
# Walks by a stack

The visits of a tree and the counts of its levels can also be found one node at a time, with a stack
of the nodes to come. The walk takes the top node and pushes its children in order; the count takes
the nodes in any order, here the last sibling first, and keeps a histogram of their depths.

* `stackWalk_visits`: the walk by a stack makes the same visits.
* `stackPops_levels`: the count by a stack takes as many nodes from each level as it has.
* `histogram_eq_levelCounts`: the histogram is that of the levels.
-/

namespace SceneCompiler.SceneGraph

variable {g : SceneGraph} {rank : NodeId → Nat}

/-! ## Visits -/

/-- Siblings on a stack, with their depth and their places. -/
def entries (depth : Nat) (ids : List NodeId) : List (NodeId × Nat × Nat) :=
  ids.zipIdx.map fun p => (p.1, depth, p.2)

/-- A walk takes the nodes of a stack one by one, the top first, and pushes the children that a node
keeps. It makes the visits until the stack is empty. -/
inductive StackWalk (g : SceneGraph) (limit : Option Nat) :
    List (NodeId × Nat × Nat) → List Visit → Prop where
  | done : StackWalk g limit [] []
  | missing {id : NodeId} {depth index : Nat} {stack : List (NodeId × Nat × Nat)}
      {visits : List Visit} (lost : g.find? id = none) (rest : StackWalk g limit stack visits) :
      StackWalk g limit ((id, depth, index) :: stack) visits
  | visit {id : NodeId} {depth index : Nat} {n : SceneNode} {stack : List (NodeId × Nat × Nat)}
      {visits : List Visit} (found : g.find? id = some n)
      (rest : StackWalk g limit
        (entries (depth + 1) (g.visit limit depth index n).node.children ++ stack) visits) :
      StackWalk g limit ((id, depth, index) :: stack) (g.visit limit depth index n :: visits)

/-- One node is always taken the same way, so a stack has one walk. -/
theorem StackWalk.unique {limit : Option Nat} {stack : List (NodeId × Nat × Nat)}
    {a b : List Visit} (ha : StackWalk g limit stack a) (hb : StackWalk g limit stack b) :
    a = b := by
  induction ha generalizing b with
  | done =>
    cases hb
    rfl
  | missing lost _ ih =>
    cases hb with
    | missing _ rest => exact ih rest
    | visit found _ => rw [lost] at found; cases found
  | visit found _ ih =>
    cases hb with
    | missing lost _ => rw [lost] at found; cases found
    | visit found' rest =>
      obtain rfl := Option.some.inj (found.symm.trans found')
      rw [ih rest]

/-- Siblings on top of a stack are walked with all below them before the walk comes to the rest. -/
theorem stackWalk_visits (hrank : g.Ranked rank) (hnames : ∀ id n, g.find? id = some n → n.id = id)
    {limit : Option Nat} {fuel depth : Nat} {ids : List NodeId}
    (hids : ∀ id ∈ ids, g.isVisible id) (hle : ∀ id ∈ ids, rank id ≤ fuel)
    {stack : List (NodeId × Nat × Nat)} {after : List Visit}
    (hrest : StackWalk g limit stack after) :
    StackWalk g limit (entries depth ids ++ stack) (g.visits limit fuel depth ids ++ after) := by
  induction fuel generalizing depth ids stack after with
  | zero =>
    have hnil : ids = [] := level_eq_nil_of_rank hrank (d := 0) hids hle
    rw [hnil]
    exact hrest
  | succ fuel ih =>
    rw [visits, entries]
    -- The induction is on the siblings with their places.
    have hplaces : ∀ p ∈ ids.zipIdx, p.1 ∈ ids := fun p hp => List.fst_mem_of_mem_zipIdx hp
    generalize ids.zipIdx = places at hplaces
    induction places with
    | nil => exact hrest
    | cons p siblings ihsiblings =>
      obtain ⟨id, index⟩ := p
      have hid : id ∈ ids := hplaces (id, index) List.mem_cons_self
      obtain ⟨n, hn⟩ := Option.isSome_iff_exists.mp (isSome_find?_of_isVisible (hids id hid))
      have hn' : n.id = id := hnames id n hn
      have hbelow : ∀ c ∈ (g.visit limit depth index n).node.children,
          c ∈ ids.flatMap g.visibleChildIds := by
        intro c hc
        rw [children_visit] at hc
        exact List.mem_flatMap.mpr ⟨id, hid, hn' ▸ mem_keptChildren hc⟩
      rw [List.flatMap_cons, List.append_assoc, List.map_cons, List.cons_append]
      simp only [hn, List.cons_append]
      refine StackWalk.visit hn (ih (fun c hc => ?_) (fun c hc => ?_) ?_)
      · exact isVisible_of_mem_children c (hbelow c hc)
      · exact rank_le_of_mem_children hrank hle c (hbelow c hc)
      · exact ihsiblings fun q hq => hplaces q (List.mem_cons_of_mem _ hq)

/-! ## Counts -/

/-- A count takes the nodes of a stack one by one, the top first, pushes the visible children of
each, and notes the depths of the nodes that it takes. -/
inductive StackPops (g : SceneGraph) : List (NodeId × Nat) → List Nat → Prop where
  | done : StackPops g [] []
  | pop {id : NodeId} {depth : Nat} {stack : List (NodeId × Nat)} {depths : List Nat}
      (rest : StackPops g ((g.visibleChildIds id).reverse.map (·, depth + 1) ++ stack) depths) :
      StackPops g ((id, depth) :: stack) (depth :: depths)

/-- Raises the count of a depth by one. -/
def bump : Nat → List Nat → List Nat
  | 0, [] => [1]
  | 0, count :: rest => (count + 1) :: rest
  | depth + 1, [] => 0 :: bump depth []
  | depth + 1, count :: rest => count :: bump depth rest

/-- The counts of some depths. -/
def histogram (depths : List Nat) : List Nat :=
  depths.foldl (fun counts depth => bump depth counts) []

/-- Siblings on top of a stack are counted with all below them, level by level. -/
theorem stackPops_levels (hrank : g.Ranked rank) {fuel : Nat} (depth : Nat) {ids : List NodeId}
    (hids : ∀ id ∈ ids, g.isVisible id) (hle : ∀ id ∈ ids, rank id ≤ fuel)
    {stack : List (NodeId × Nat)} {after : List Nat} (hrest : StackPops g stack after) :
    ∃ depths, StackPops g (ids.map (·, depth) ++ stack) (depths ++ after)
      ∧ ∀ k, depths.count k = if depth ≤ k then (g.level (k - depth) ids).length else 0 := by
  induction fuel generalizing depth ids stack after with
  | zero =>
    have hnil : ids = [] := level_eq_nil_of_rank hrank (d := 0) hids hle
    rw [hnil]
    exact ⟨[], hrest, by simp [level_nil]⟩
  | succ fuel ih =>
    induction ids with
    | nil => exact ⟨[], hrest, by simp [level_nil]⟩
    | cons id siblings ihsiblings =>
      obtain ⟨depths, hpops, hcounts⟩ := ihsiblings
        (fun c hc => hids c (List.mem_cons_of_mem _ hc))
        fun c hc => hle c (List.mem_cons_of_mem _ hc)
      have hmem : ∀ c ∈ (g.visibleChildIds id).reverse,
          c ∈ (id :: siblings).flatMap g.visibleChildIds := fun c hc =>
        List.mem_flatMap.mpr ⟨id, List.mem_cons_self, List.mem_reverse.mp hc⟩
      obtain ⟨below, hbelow, hbelowCounts⟩ := ih (depth + 1)
        (fun c hc => isVisible_of_mem_children c (hmem c hc))
        (fun c hc => rank_le_of_mem_children hrank hle c (hmem c hc)) hpops
      refine ⟨depth :: (below ++ depths), ?_, fun k => ?_⟩
      · rw [List.cons_append, List.append_assoc]
        exact StackPops.pop hbelow
      · have hreverse : ∀ j, (g.level j (g.visibleChildIds id).reverse).length
            = (g.level j (g.visibleChildIds id)).length := fun j =>
          (level_perm j (List.reverse_perm _)).length_eq
        have hsplit : ∀ j, g.level (j + 1) (id :: siblings)
            = g.level j (g.visibleChildIds id) ++ g.level (j + 1) siblings := by
          intro j
          rw [level, List.flatMap_cons, level_append]
          rfl
        rw [List.count_cons, List.count_append, hcounts, hbelowCounts, hreverse]
        -- The node itself is on the first level, what lies below it on the others.
        rcases Nat.lt_trichotomy k depth with hlt | rfl | hlt
        · have hne : ¬ depth = k := by omega
          have hle : ¬ depth ≤ k := by omega
          have hle' : ¬ depth + 1 ≤ k := by omega
          simp [hne, hle, hle']
        · simp [level]
        · obtain ⟨j, rfl⟩ : ∃ j, k = depth + 1 + j := ⟨k - (depth + 1), by omega⟩
          have hne : ¬ depth = depth + 1 + j := by omega
          have hj : depth + 1 + j - depth = j + 1 := by omega
          have hle : depth ≤ depth + 1 + j := by omega
          simp [hne, hle, hj, hsplit]

theorem length_bump (depth : Nat) (counts : List Nat) :
    (bump depth counts).length = max counts.length (depth + 1) := by
  induction depth generalizing counts with
  | zero => cases counts <;> simp [bump]
  | succ depth ih => cases counts <;> simp [bump, ih]

theorem getD_bump (depth k : Nat) (counts : List Nat) :
    (bump depth counts).getD k 0 = counts.getD k 0 + if depth = k then 1 else 0 := by
  induction depth generalizing counts k with
  | zero => cases counts <;> cases k <;> simp [bump]
  | succ depth ih =>
    cases counts with
    | nil =>
      cases k with
      | zero => simp [bump]
      | succ k => simpa [bump] using ih k []
    | cons count rest =>
      cases k with
      | zero => simp [bump]
      | succ k => simpa [bump] using ih k rest

theorem histogram_concat (depths : List Nat) (depth : Nat) :
    histogram (depths ++ [depth]) = bump depth (histogram depths) := by
  simp [histogram]

theorem getD_histogram (depths : List Nat) (k : Nat) :
    (histogram depths).getD k 0 = depths.count k := by
  induction depths using List.reverseRecOn with
  | nil => simp [histogram]
  | append_singleton depths depth ih =>
    rw [histogram_concat, getD_bump, ih, List.count_append]
    simp [List.count_singleton]

theorem lt_length_histogram (depths : List Nat) (k : Nat) :
    k < (histogram depths).length ↔ ∃ depth ∈ depths, k ≤ depth := by
  induction depths using List.reverseRecOn with
  | nil => simp [histogram]
  | append_singleton depths depth ih =>
    rw [histogram_concat, length_bump, lt_max_iff, ih]
    simp only [List.mem_append, List.mem_singleton]
    constructor
    · rintro (⟨d, hd, hk⟩ | hk)
      · exact ⟨d, Or.inl hd, hk⟩
      · exact ⟨depth, Or.inr rfl, by omega⟩
    · rintro ⟨d, hd | rfl, hk⟩
      · exact Or.inl ⟨d, hd, hk⟩
      · exact Or.inr (by omega)

/-- The histogram of a count by a stack has the counts of the levels. -/
theorem histogram_eq_levelCounts (hrank : g.Ranked rank) {fuel : Nat} {ids : List NodeId}
    (hids : ∀ id ∈ ids, g.isVisible id) (hle : ∀ id ∈ ids, rank id ≤ fuel) {depths : List Nat}
    (hcounts : ∀ k, depths.count k = (g.level k ids).length) :
    histogram depths = g.levelCounts fuel ids := by
  have hlevels : ∀ k, k < (histogram depths).length ↔ k < (g.levelCounts fuel ids).length := by
    intro k
    rw [lt_length_histogram, lt_length_levelCounts hrank hids hle]
    constructor
    · rintro ⟨d, hd, hk⟩ hnil
      have hpos := List.count_pos_iff.mpr hd
      rw [hcounts, level_eq_nil_of_le hk hnil] at hpos
      simp at hpos
    · intro hlevel
      refine ⟨k, List.count_pos_iff.mp ?_, le_rfl⟩
      rw [hcounts]
      exact List.length_pos_of_ne_nil hlevel
  have hlength : (histogram depths).length = (g.levelCounts fuel ids).length := by
    have hless := hlevels (histogram depths).length
    have hmore := hlevels (g.levelCounts fuel ids).length
    omega
  refine List.ext_getElem hlength fun k hk hk' => ?_
  have hvalue : (histogram depths).getD k 0 = (g.levelCounts fuel ids).getD k 0 := by
    rw [getD_histogram, hcounts, getD_levelCounts hrank hids hle]
  rwa [List.getD_eq_getElem _ _ hk, List.getD_eq_getElem _ _ hk'] at hvalue

end SceneCompiler.SceneGraph
