import Mathlib
import SceneCompiler.Outline
import SceneCompiler.Proofs.Tree.DepthLimit
/-!
# Walks from name to name end

A walk goes from a name to the names of its children, and from a name to the node that owns it.
Where names are repeated that is not the way of the edges: the owner of a child's name may sit
anywhere in the scene. It was added after the owner of the parent's name, though, so no walk comes
back to a name.

The walks are stated without a bound: by a stack, one node at a time, or by a recursion. Each of
them comes to an end, and what it finds is what the bounded walk finds.

* `Reachable.not_leadsTo_self`: no name leads back to itself.
* `stack_empties`: a stack empties when every entry is replaced by smaller ones.
* `outlinesNode_iff`: the bounded recursion makes the outline of the unbounded one.
* `walks_end`: the count of levels, the walk of the tree and the outline end.
-/

namespace SceneCompiler.SceneGraph

variable {g : SceneGraph}

/-! ## Names do not lead back -/

/-- A name leads to the names of its children. -/
def LeadsTo (g : SceneGraph) (id child : NodeId) : Prop :=
  child ∈ g.childIds id

theorem exists_owner_of_mem_childIds {id child : NodeId} (h : child ∈ g.childIds id) :
    ∃ i, g.owners[id]? = some i := by
  unfold childIds indexOf? at h
  cases howner : g.owners[id]? with
  | none => simp [howner] at h
  | some i => exact ⟨i, rfl⟩

/-- Along names that lead to each other the owners get younger. -/
theorem Aged.lt_of_leadsTo {stamp : SlotIndex → Nat} {bound : Nat} (h : Aged g stamp bound)
    {id id' : NodeId} (hlead : Relation.TransGen g.LeadsTo id id') {k : SlotIndex}
    (hk : g.owners[id']? = some k) : ∃ i, g.owners[id]? = some i ∧ stamp i < stamp k := by
  induction hlead generalizing k with
  | single hchild => exact h.lt_of_mem_childIds hchild hk
  | tail _ hchild ih =>
    obtain ⟨j, hj, hjk⟩ := h.lt_of_mem_childIds hchild hk
    obtain ⟨i, hi, hij⟩ := ih hj
    exact ⟨i, hi, hij.trans hjk⟩

/-- No name leads back to itself. -/
theorem Reachable.not_leadsTo_self (hg : g.Reachable) (id : NodeId) :
    ¬ Relation.TransGen g.LeadsTo id id := by
  intro hlead
  obtain ⟨stamp, bound, h⟩ := hg.exists_aged
  obtain ⟨child, hchild, -⟩ := Relation.TransGen.head'_iff.mp hlead
  obtain ⟨k, hk⟩ := exists_owner_of_mem_childIds hchild
  obtain ⟨i, hi, hlt⟩ := h.lt_of_leadsTo hlead hk
  obtain rfl := Option.some.inj (hi.symm.trans hk)
  exact lt_irrefl _ hlt

/-- So the names below a name can be handled before it. -/
theorem Reachable.wellFounded_children (hg : g.Reachable) :
    WellFounded fun child id => child ∈ g.visibleChildIds id := by
  obtain ⟨rank, hrank⟩ := hg.exists_ranked
  refine Subrelation.wf (fun {child id} h => ?_) (measure rank).wf
  obtain ⟨hmem, hfound⟩ := mem_visibleChildIds h
  exact hrank.child id child hmem hfound

/-! ## Stacks -/

/-- A stack empties when its top entry is replaced, time after time, by entries that are smaller in
an order without infinite descents. -/
theorem stack_empties {σ : Type} {smaller : σ → σ → Prop} (hwf : WellFounded smaller)
    {P : List σ → Prop} (hnil : P [])
    (hstep : ∀ x rest, ∃ below, (∀ y ∈ below, smaller y x) ∧ (P (below ++ rest) → P (x :: rest)))
    (stack : List σ) : P stack := by
  have hpush : ∀ x rest, P rest → P (x :: rest) := by
    intro x
    induction x using hwf.induction with
    | h x ih =>
      intro rest hrest
      obtain ⟨below, hbelow, hx⟩ := hstep x rest
      apply hx
      -- The entries that replace the top one go one by one, the last one first.
      clear hx
      induction below with
      | nil => exact hrest
      | cons y others ihothers =>
        refine ih y (hbelow y List.mem_cons_self) _ (ihothers fun z hz => ?_)
        exact hbelow z (List.mem_cons_of_mem y hz)
  induction stack with
  | nil => exact hnil
  | cons x rest ih => exact hpush x rest ih

/-- A count takes the nodes of a stack in one way only. -/
theorem StackPops.unique {stack : List (NodeId × Nat)} {a b : List Nat} (ha : StackPops g stack a)
    (hb : StackPops g stack b) : a = b := by
  induction ha generalizing b with
  | done =>
    cases hb
    rfl
  | pop _ ih =>
    cases hb with
    | pop rest => rw [ih rest]

theorem Reachable.exists_unique_stackPops (hg : g.Reachable) (stack : List (NodeId × Nat)) :
    ∃! depths, StackPops g stack depths := by
  have hend : ∃ depths, StackPops g stack depths := by
    refine stack_empties (P := fun stack => ∃ depths, StackPops g stack depths)
      (InvImage.wf Prod.fst hg.wellFounded_children) ⟨[], .done⟩ ?_ stack
    rintro ⟨id, depth⟩ rest
    -- The children of a name replace it, and they come before it in the order.
    refine ⟨(g.visibleChildIds id).reverse.map (·, depth + 1), ?_, ?_⟩
    · rintro _ hentry
      obtain ⟨child, hchild, rfl⟩ := List.mem_map.mp hentry
      exact List.mem_reverse.mp hchild
    · rintro ⟨depths, hdepths⟩
      exact ⟨depth :: depths, .pop hdepths⟩
  obtain ⟨depths, hdepths⟩ := hend
  exact ⟨depths, hdepths, fun _ h => h.unique hdepths⟩

theorem Reachable.exists_unique_stackWalk (hg : g.Reachable) (limit : Option Nat)
    (stack : List (NodeId × Nat × Nat)) : ∃! visits, StackWalk g limit stack visits := by
  have hend : ∃ visits, StackWalk g limit stack visits := by
    refine stack_empties (P := fun stack => ∃ visits, StackWalk g limit stack visits)
      (InvImage.wf Prod.fst hg.wellFounded_children) ⟨[], .done⟩ ?_ stack
    rintro ⟨id, depth, index⟩ rest
    cases hn : g.find? id with
    | none => exact ⟨[], by simp, fun ⟨visits, hvisits⟩ => ⟨visits, .missing hn hvisits⟩⟩
    | some n =>
      refine ⟨entries (depth + 1) (g.visit limit depth index n).node.children, ?_, ?_⟩
      · rintro _ hentry
        obtain ⟨p, hp, rfl⟩ := List.mem_map.mp hentry
        have hchild := List.fst_mem_of_mem_zipIdx hp
        rw [children_visit] at hchild
        -- The node has the name that it was found under.
        show p.1 ∈ g.visibleChildIds id
        rw [← hg.id_of_find? hn]
        exact mem_keptChildren hchild
      · rintro ⟨visits, hvisits⟩
        exact ⟨_, .visit hn hvisits⟩
  obtain ⟨visits, hvisits⟩ := hend
  exact ⟨visits, hvisits, fun _ h => h.unique hvisits⟩

/-! ## Outlines -/

mutual

/-- The outline of a node at a depth, and what it leaves of the budget. -/
inductive OutlinesNode (g : SceneGraph) (limits : Limits) (maxDepth : Nat) :
    Nat → OutlineBudget → NodeId → Option OutlineNode × OutlineBudget → Prop where
  | absent {depth : Nat} {b : OutlineBudget} {id : NodeId}
      (absent : (g.find? id).filter (·.visible) = none) :
      OutlinesNode g limits maxDepth depth b id (none, b)
  | full {depth : Nat} {b : OutlineBudget} {id : NodeId} (room : b.room = 0) :
      OutlinesNode g limits maxDepth depth b id (none, b)
  | leaf {depth : Nat} {b : OutlineBudget} {id : NodeId} {n : SceneNode}
      (found : (g.find? id).filter (·.visible) = some n) (room : b.room ≠ 0)
      (childless : g.visibleChildIds id = []) :
      OutlinesNode g limits maxDepth depth b id
        (some (.node (OutlineRecord.of limits n) none), { b with room := b.room - 1 })
  | last {depth : Nat} {b : OutlineBudget} {id : NodeId} {n : SceneNode}
      (found : (g.find? id).filter (·.visible) = some n) (room : b.room ≠ 0)
      (children : g.visibleChildIds id ≠ []) (last : maxDepth ≤ depth) :
      OutlinesNode g limits maxDepth depth b id
        (some (.node (OutlineRecord.of limits n) none), ⟨b.room - 1, true⟩)
  | inner {depth : Nat} {b left : OutlineBudget} {id : NodeId} {n : SceneNode}
      {shown : List OutlineNode} (found : (g.find? id).filter (·.visible) = some n)
      (room : b.room ≠ 0) (children : g.visibleChildIds id ≠ []) (inner : depth < maxDepth)
      (below : OutlinesSiblings g limits maxDepth (depth + 1) { b with room := b.room - 1 }
        (g.visibleChildIds id) (shown, left)) :
      OutlinesNode g limits maxDepth depth b id
        (some (.node (OutlineRecord.of limits n) (some shown)), left)

/-- The outlines of some siblings in order, as long as there is room. -/
inductive OutlinesSiblings (g : SceneGraph) (limits : Limits) (maxDepth : Nat) :
    Nat → OutlineBudget → List NodeId → List OutlineNode × OutlineBudget → Prop where
  | done {depth : Nat} {b : OutlineBudget} : OutlinesSiblings g limits maxDepth depth b [] ([], b)
  | full {depth : Nat} {b : OutlineBudget} {id : NodeId} {rest : List NodeId} (room : b.room = 0) :
      OutlinesSiblings g limits maxDepth depth b (id :: rest) ([], { b with truncated := true })
  | next {depth : Nat} {b between left : OutlineBudget} {id : NodeId} {rest : List NodeId}
      {one : Option OutlineNode} {others : List OutlineNode} (room : b.room ≠ 0)
      (first : OutlinesNode g limits maxDepth depth b id (one, between))
      (siblings : OutlinesSiblings g limits maxDepth depth between rest (others, left)) :
      OutlinesSiblings g limits maxDepth depth b (id :: rest) (one.toList ++ others, left)

end

variable {limits : Limits} {maxDepth depth : Nat}

/-- Siblings are outlined in one way if each of them is. -/
theorem outlinesSiblings_iff {make : OutlineBudget → NodeId → Option OutlineNode × OutlineBudget}
    {ids : List NodeId} (hmake : ∀ id ∈ ids, ∀ b : OutlineBudget, b.room ≠ 0 → ∀ made,
      OutlinesNode g limits maxDepth depth b id made ↔ made = make b id) (b : OutlineBudget)
    (made : List OutlineNode × OutlineBudget) :
    OutlinesSiblings g limits maxDepth depth b ids made ↔ made = outlineSiblings make b ids := by
  induction ids generalizing b made with
  | nil =>
    rw [outlineSiblings]
    constructor
    · intro h
      cases h
      rfl
    · intro h
      rw [h]
      exact .done
  | cons id rest ih =>
    have hfirst := hmake id List.mem_cons_self b
    have hrest := ih fun id' hid' => hmake id' (List.mem_cons_of_mem id hid')
    rw [outlineSiblings]
    by_cases hroom : b.room = 0
    · rw [if_pos hroom]
      constructor
      · intro h
        cases h with
        | full _ => rfl
        | next room _ _ => exact absurd hroom room
      · intro h
        rw [h]
        exact .full hroom
    · rw [if_neg hroom]
      constructor
      · intro h
        cases h with
        | full room => exact absurd room hroom
        | next _ first siblings =>
          have hone := (hfirst hroom _).mp first
          have hothers := (hrest _ _).mp siblings
          rw [← hone]
          show _ = (_ ++ (outlineSiblings make _ rest).1, (outlineSiblings make _ rest).2)
          rw [← hothers]
      · intro h
        rw [h]
        exact .next hroom ((hfirst hroom _).mpr rfl) ((hrest _ _).mpr rfl)

/-- There is no outline of a node that is missing or hidden. -/
theorem outlinesNode_iff_of_absent {b : OutlineBudget} {id : NodeId}
    {made : Option OutlineNode × OutlineBudget}
    (habsent : (g.find? id).filter (·.visible) = none) :
    OutlinesNode g limits maxDepth depth b id made ↔ made = (none, b) := by
  constructor
  · intro h
    cases h with
    | absent _ | full _ => rfl
    | leaf found | last found | inner found =>
      rw [habsent] at found
      cases found
  · intro h
    rw [h]
    exact .absent habsent

/-- The outline of a node that is found, while there is room. -/
theorem outlinesNode_iff_of_found {b : OutlineBudget} {id : NodeId} {n : SceneNode}
    {made : Option OutlineNode × OutlineBudget}
    (hfound : (g.find? id).filter (·.visible) = some n) (hroom : b.room ≠ 0) :
    OutlinesNode g limits maxDepth depth b id made ↔
      (g.visibleChildIds id = [] ∧
        made = (some (.node (OutlineRecord.of limits n) none), ⟨b.room - 1, b.truncated⟩)) ∨
      (g.visibleChildIds id ≠ [] ∧ maxDepth ≤ depth ∧
        made = (some (.node (OutlineRecord.of limits n) none), ⟨b.room - 1, true⟩)) ∨
      (g.visibleChildIds id ≠ [] ∧ depth < maxDepth ∧ ∃ below,
        OutlinesSiblings g limits maxDepth (depth + 1) ⟨b.room - 1, b.truncated⟩
          (g.visibleChildIds id) below ∧
        made = (some (.node (OutlineRecord.of limits n) (some below.1)), below.2)) := by
  constructor
  · intro h
    cases h with
    | absent absent =>
      rw [hfound] at absent
      cases absent
    | full room => exact absurd room hroom
    | leaf found _ childless =>
      obtain rfl := Option.some.inj (found.symm.trans hfound)
      exact Or.inl ⟨childless, rfl⟩
    | last found _ children last =>
      obtain rfl := Option.some.inj (found.symm.trans hfound)
      exact Or.inr (Or.inl ⟨children, last, rfl⟩)
    | inner found _ children inner below =>
      obtain rfl := Option.some.inj (found.symm.trans hfound)
      exact Or.inr (Or.inr ⟨children, inner, _, below, rfl⟩)
  · rintro (⟨childless, rfl⟩ | ⟨children, last, rfl⟩ | ⟨children, inner, ⟨shown, left⟩, below, rfl⟩)
    · exact .leaf hfound hroom childless
    · exact .last hfound hroom children last
    · exact .inner hfound hroom children inner below

/-- The recursion makes the outline of a node, as long as the bound is not below its rank. -/
theorem outlinesNode_iff {rank : NodeId → Nat} (hrank : g.Ranked rank) (fuel : Nat) :
    ∀ (depth : Nat) (id : NodeId), rank id ≤ fuel → ∀ b : OutlineBudget, b.room ≠ 0 → ∀ made,
      OutlinesNode g limits maxDepth depth b id made
        ↔ made = g.outlineNode limits maxDepth fuel depth b id := by
  induction fuel with
  | zero =>
    intro depth id hle b hroom made
    -- No node is found under a name of rank zero.
    have habsent : g.find? id = none := by
      rw [← Option.not_isSome_iff_eq_none]
      intro hfound
      have hpos := hrank.pos id hfound
      omega
    rw [outlineNode]
    exact outlinesNode_iff_of_absent (by rw [habsent, Option.filter_none])
  | succ fuel ih =>
    intro depth id hle b hroom made
    rw [outlineNode]
    cases hfound : (g.find? id).filter (·.visible) with
    | none => exact outlinesNode_iff_of_absent hfound
    | some n =>
      have hbelow : ∀ child ∈ g.visibleChildIds id, rank child ≤ fuel := by
        intro child hchild
        obtain ⟨hmem, hvisible⟩ := mem_visibleChildIds hchild
        have hdrop := hrank.child id child hmem hvisible
        omega
      have hsiblings := outlinesSiblings_iff (fun child hchild => ih (depth + 1) child
        (hbelow child hchild)) ⟨b.room - 1, b.truncated⟩
      rw [outlinesNode_iff_of_found hfound hroom]
      dsimp only
      by_cases hchildless : g.visibleChildIds id = []
      · simp [hchildless]
      · rw [if_neg (by rwa [List.isEmpty_iff])]
        by_cases hlast : maxDepth ≤ depth
        · simp [hchildless, hlast]
        · have hinner : depth < maxDepth := not_le.mp hlast
          simp [hchildless, hlast, hinner, hsiblings]

/-- The recursion of an outline starts with as large a bound as it needs. -/
theorem Reachable.outlinesSiblings_iff (hg : g.Reachable) (b : OutlineBudget)
    (roots : List NodeId) (made : List OutlineNode × OutlineBudget) :
    OutlinesSiblings g limits maxDepth 0 b roots made ↔
      made = outlineSiblings (g.outlineNode limits maxDepth g.owners.size 0) b roots := by
  obtain ⟨rank, hrank⟩ := hg.exists_ranked
  apply SceneGraph.outlinesSiblings_iff
  intro id _
  exact outlinesNode_iff hrank g.owners.size 0 id (hrank.le id)

/-! ## The walks of a scene -/

/-- The tree of some visits. -/
def treeOf (rootIds : List NodeId) (limit : Option Nat) (visits : List Visit) : VisibleTree where
  rootIds
  order := visits.map (·.node.id)
  nodes := visits.foldl (fun nodes v => nodes.insert v.node.id v.node) ∅
  maxDepth := (visits.map (·.node.depth)).foldl max 0
  depthLimit := limit
  cappedIds := (visits.filter (·.capped)).map (·.node.id)

/-- The walks from some names each come to one end. -/
structure WalksEnd (g : SceneGraph) (roots : List NodeId) : Prop where
  counts : ∃! depths, StackPops g (roots.reverse.map (·, 0)) depths
  visits : ∀ limit, ∃! visits, StackWalk g limit (entries 0 roots) visits
  outlines : ∀ limits maxDepth b, ∃! made, OutlinesSiblings g limits maxDepth 0 b roots made

/-- Trees and outlines are what the walks find, for any roots. -/
structure FoundByWalks (g : SceneGraph) (roots : List NodeId) : Prop where
  tree : ∀ policy : DepthPolicy, ∃ depths visits,
    StackPops g ((g.visibleRoots roots).reverse.map (·, 0)) depths
    ∧ StackWalk g (policy.limit? (histogram depths)) (entries 0 (g.visibleRoots roots)) visits
    ∧ g.visibleTree roots policy
      = treeOf (g.visibleRoots roots) (policy.limit? (histogram depths)) visits
  outline : ∀ (depth : Option Nat) (limits : Limits), ∃ nodes left,
    OutlinesSiblings g limits (depth.getD limits.structureDefaultDepth) 0
      ⟨limits.structureMaxNodes, false⟩ roots (nodes, left)
    ∧ g.outline roots depth limits
      = ⟨nodes, limits.structureMaxNodes - left.room, left.truncated⟩

theorem Reachable.walksEnd (hg : g.Reachable) (roots : List NodeId) : WalksEnd g roots where
  counts := hg.exists_unique_stackPops _
  visits limit := hg.exists_unique_stackWalk limit _
  outlines _ _ b :=
    ⟨_, (hg.outlinesSiblings_iff b roots _).mpr rfl,
      fun made h => (hg.outlinesSiblings_iff b roots made).mp h⟩

theorem Reachable.foundByWalks (hg : g.Reachable) (roots : List NodeId) :
    FoundByWalks g roots where
  tree policy := by
    obtain ⟨depths, hpops, hlimit⟩ := exists_stackPops hg roots policy
    -- The walk of the tree is bounded by the rank of the names.
    obtain ⟨rank, hrank⟩ := hg.exists_ranked
    have hwalk : StackWalk g (policy.limit? (histogram depths))
        (entries 0 (g.visibleRoots roots) ++ []) (_ ++ []) :=
      stackWalk_visits hrank (fun _ _ => hg.id_of_find?) isVisible_of_mem_visibleRoots
        (fun id _ => hrank.le id) StackWalk.done
    rw [List.append_nil, List.append_nil] at hwalk
    refine ⟨depths, _, hpops, hwalk, ?_⟩
    rw [hlimit]
    rfl
  outline depth limits := by
    refine ⟨_, _, (hg.outlinesSiblings_iff _ roots (_, _)).mpr rfl, ?_⟩
    rfl

/-- In a scene that comes about no name leads back to itself, so that from any names the walks of
trees and of outlines end. -/
theorem walks_end (hg : g.Reachable) :
    (∀ id, ¬ Relation.TransGen g.LeadsTo id id)
      ∧ ∀ roots, WalksEnd g roots ∧ FoundByWalks g roots := by
  constructor
  · intro id
    exact hg.not_leadsTo_self id
  · intro roots
    exact ⟨hg.walksEnd roots, hg.foundByWalks roots⟩

/-! ### A frame in a frame of the same name -/

/-- A frame that holds a group and a frame of its own name, which holds a group of the same name as
the first one. -/
def namesakes : SceneDocument where
  roots := [.node { id := ⟨"f"⟩, type := .frame } [
    .node { id := ⟨"g"⟩, type := .group } [],
    .node { id := ⟨"f"⟩, type := .frame } [.node { id := ⟨"g"⟩, type := .group } []]]]

/-- The name of the frame leads to the inner frame, and from there to the inner group only. -/
theorem walks_end_namesakes :
    (ofDocument namesakes).childIds ⟨"f"⟩ = [⟨"g"⟩]
      ∧ (ofDocument namesakes).childIds ⟨"g"⟩ = []
      ∧ ((∀ id, ¬ Relation.TransGen (ofDocument namesakes).LeadsTo id id)
        ∧ ∀ roots, WalksEnd (ofDocument namesakes) roots
          ∧ FoundByWalks (ofDocument namesakes) roots) :=
  ⟨by decide +kernel, by decide +kernel, walks_end (reachable_ofDocument namesakes)⟩

end SceneCompiler.SceneGraph
