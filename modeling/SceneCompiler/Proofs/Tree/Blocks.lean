import Mathlib
import SceneCompiler.Proofs.Tree.Preorder
/-!
# Blocks of the pre-order

The order of a tree and the depths of its nodes tell all that the records tell: below a node lies
what follows it in the order and is deeper, up to the first node that is not. So a part of the tree
can be taken out of the order as one block.

* `exists_block`: in a listing of subtrees a node is followed by all below it, and then by a node
  that is not deeper.
* `stackFinds_append`: a search with a stack finds what lies below some nodes in pre-order.
* `inBlocks_visibleTree`: the order of a tree without nested roots is made of such blocks.
-/

namespace SceneCompiler

namespace VisibleTree

/-! ## Definitions -/

/-- The depth at which a tree keeps a node. -/
def depthOf (t : VisibleTree) (id : NodeId) : Nat :=
  ((t.find? id).map (·.depth)).getD 0

/-- A search takes the nodes of a stack one by one, the top first, and puts the children of each in
its place. It finds nodes until the stack is empty. -/
inductive StackFinds (t : VisibleTree) : List NodeId → List NodeId → Prop where
  | done : StackFinds t [] []
  | take {id : NodeId} {stack found : List NodeId}
      (rest : StackFinds t (t.childrenOf id ++ stack) found) :
      StackFinds t (id :: stack) (id :: found)

/-- The order and the depths of a tree tell what lies below a node, and what is above it. -/
structure InBlocks (t : VisibleTree) : Prop where
  once : t.order.Nodup
  kept : ∀ id, id ∈ t.order ↔ (t.find? id).isSome
  whole : t.order = t.rootIds.flatMap fun r => r :: t.descendants r
  block : ∀ before id after, t.order = before ++ id :: after →
    t.descendants id = after.takeWhile fun x => t.depthOf id < t.depthOf x
  found : ∀ id, t.StackFinds (t.childrenOf id) (t.descendants id)
  root : ∀ id ∈ t.order, t.parentOf? id = none ↔ id ∈ t.rootIds
  parent : ∀ id p, t.parentOf? id = some p ↔ id ∈ t.childrenOf p
  above : ∀ id p, t.parentOf? id = some p → p ∈ t.order ∧ t.depthOf id = t.depthOf p + 1

variable {t : VisibleTree} {rank : NodeId → Nat}

theorem depthOf_of_find? {id : NodeId} {n : VisibleNode} (h : t.find? id = some n) :
    t.depthOf id = n.depth := by
  rw [depthOf, h, Option.map_some, Option.getD_some]

/-! ## Searches -/

/-- Below a stack of nodes the search finds their subtrees, one after the other. -/
theorem stackFinds_append (h : t.Descends rank) (ids : List NodeId) {stack found : List NodeId}
    (hrest : t.StackFinds stack found) :
    t.StackFinds (ids ++ stack) ((ids.flatMap fun c => c :: t.descendants c) ++ found) := by
  have hnode : ∀ id stack found, t.StackFinds stack found →
      t.StackFinds (id :: stack) (id :: (t.descendants id ++ found)) := by
    intro id
    -- The induction is on the rank of the top, which is above that of its children.
    induction hrank : rank id using Nat.strong_induction_on generalizing id with
    | h n ih =>
      intro stack found hrest
      refine .take ?_
      rw [descendants_eq h]
      have hchildren : ∀ c ∈ t.childrenOf id, rank c < n := fun c hc =>
        hrank ▸ (h.child id c hc).1
      clear hrank
      generalize t.childrenOf id = children at hchildren
      induction children with
      | nil => exact hrest
      | cons c siblings ihsiblings =>
        rw [List.flatMap_cons, List.append_assoc, List.cons_append]
        refine ih (rank c) (hchildren c List.mem_cons_self) c rfl _ _ (ihsiblings fun d hd => ?_)
        exact hchildren d (List.mem_cons_of_mem c hd)
  induction ids with
  | nil => exact hrest
  | cons id siblings ih =>
    rw [List.flatMap_cons, List.append_assoc, List.cons_append]
    exact hnode id _ _ ih

/-! ## Blocks -/

/-- Nothing but children is found below a node. -/
theorem exists_parent_of_mem_subtree {fuel : Nat} {id x : NodeId} (hx : x ∈ t.subtree fuel id) :
    x = id ∨ ∃ p, x ∈ t.childrenOf p := by
  induction fuel generalizing id with
  | zero => simp [subtree] at hx
  | succ fuel ih =>
    rcases List.mem_cons.mp hx with rfl | hbelow
    · exact Or.inl rfl
    · obtain ⟨c, hc, hx⟩ := List.mem_flatMap.mp hbelow
      rcases ih hx with rfl | hparent
      · exact Or.inr ⟨id, hc⟩
      · exact Or.inr hparent

theorem exists_parent_of_mem_descendants {id x : NodeId} (hx : x ∈ t.descendants id) :
    ∃ p, x ∈ t.childrenOf p := by
  obtain ⟨c, hc, hx⟩ := List.mem_flatMap.mp hx
  rcases exists_parent_of_mem_subtree hx with rfl | hparent
  · exact ⟨id, hc⟩
  · exact hparent

section Depths

variable (h : t.Descends rank)
  (hdepth : ∀ p, ∀ c ∈ t.childrenOf p, t.depthOf c = t.depthOf p + 1)
include h hdepth

theorem depthOf_lt_of_mem_descendants {a x : NodeId} (hx : x ∈ t.descendants a) :
    t.depthOf a < t.depthOf x := by
  induction hrank : rank a using Nat.strong_induction_on generalizing a with
  | h n ih =>
    rw [descendants_eq h] at hx
    obtain ⟨c, hc, hx⟩ := List.mem_flatMap.mp hx
    have hchild := hdepth a c hc
    rcases List.mem_cons.mp hx with rfl | hbelow
    · omega
    · have := ih (rank c) (hrank ▸ (h.child a c hc).1) hbelow rfl
      omega

/-- In the subtrees of some siblings, one after the other, a node is followed by all below it. What
comes next is not deeper than the node. -/
theorem exists_block {depth : Nat} {ids : List NodeId} (hids : ∀ c ∈ ids, t.depthOf c = depth)
    {before after : List NodeId} {id : NodeId}
    (hsplit : (ids.flatMap fun c => c :: t.descendants c) = before ++ id :: after) :
    ∃ rest, after = t.descendants id ++ rest ∧ ∀ x ∈ rest.head?, t.depthOf x ≤ t.depthOf id := by
  -- The outer induction goes down to the children, the inner one on to the next sibling.
  obtain ⟨bound, hbound⟩ : ∃ bound, ∀ c ∈ ids, rank c < bound :=
    ⟨(ids.map rank).sum + 1, fun c hc =>
      Nat.lt_succ_of_le (List.le_sum_of_mem (List.mem_map_of_mem hc))⟩
  induction bound generalizing depth ids before after with
  | zero =>
    obtain rfl : ids = [] := List.eq_nil_iff_forall_not_mem.mpr fun c hc => by
      simpa using hbound c hc
    simp at hsplit
  | succ bound ih =>
    induction ids generalizing before with
    | nil => simp at hsplit
    | cons c siblings ihsiblings =>
      have hnext : ∀ x ∈ (siblings.flatMap fun c => c :: t.descendants c).head?,
          t.depthOf x = t.depthOf c := by
        intro x hx
        cases siblings with
        | nil => cases hx
        | cons d others =>
          obtain rfl : d = x := by simpa using hx
          rw [hids d (by simp), hids c (by simp)]
      rw [List.flatMap_cons, List.cons_append] at hsplit
      rcases List.cons_eq_append_iff.mp hsplit with ⟨-, hhead⟩ | ⟨before, -, hbehind⟩
      · obtain ⟨rfl, rfl⟩ := List.cons.inj hhead
        exact ⟨_, rfl, fun x hx => (hnext x hx).le⟩
      have hrest : ∀ before : List NodeId,
          (siblings.flatMap fun c => c :: t.descendants c) = before ++ id :: after →
            ∃ rest, after = t.descendants id ++ rest
              ∧ ∀ x ∈ rest.head?, t.depthOf x ≤ t.depthOf id := fun _ hlater =>
        ihsiblings (fun d hd => hids d (List.mem_cons_of_mem c hd)) hlater
          fun d hd => hbound d (List.mem_cons_of_mem c hd)
      rcases List.append_eq_append_iff.mp hbehind with
        ⟨between, rfl, hlater⟩ | ⟨below, hbelow, hlater⟩
      · exact hrest _ hlater
      cases below with
      | nil => exact hrest [] hlater.symm
      | cons first below =>
        obtain ⟨rfl, rfl⟩ := List.cons.inj hlater
        have hid : id ∈ t.descendants c := by simp [hbelow]
        rw [descendants_eq h] at hbelow
        obtain ⟨rest, rfl, hshallow⟩ := ih (hdepth c) hbelow fun d hd => by
          have := (h.child c d hd).1
          have := hbound c List.mem_cons_self
          omega
        refine ⟨rest ++ _, List.append_assoc _ _ _, fun x hx => ?_⟩
        cases rest with
        | nil =>
          have := depthOf_lt_of_mem_descendants h hdepth hid
          have := hnext x hx
          omega
        | cons y rest => exact hshallow x hx

end Depths

end VisibleTree

namespace SceneGraph

open VisibleTree

variable {g : SceneGraph} {roots : List NodeId} {policy : DepthPolicy}

/-! ## Trees -/

theorem depthOf_child (hg : g.Reachable) (hnodup : (g.visibleTree roots policy).order.Nodup)
    {p c : NodeId} (hc : c ∈ (g.visibleTree roots policy).childrenOf p) :
    (g.visibleTree roots policy).depthOf c = (g.visibleTree roots policy).depthOf p + 1 := by
  have hrep := represents_of_nodup hg hnodup
  have hp := (mem_order_of_mem_childrenOf hc).1
  have hcapped : p ∉ (g.visibleTree roots policy).cappedIds := by
    intro hcapped
    obtain ⟨-, -, n, hn, hempty⟩ := (hrep.capped p).mp hcapped
    rw [childrenOf_of_find? hn, hempty] at hc
    cases hc
  obtain ⟨n, hn, -, hplaces⟩ := hrep.kept p hp hcapped
  rw [childrenOf_of_find? hn] at hc
  obtain ⟨index, hindex⟩ := List.mem_iff_getElem?.mp hc
  obtain ⟨-, m, hm, hdepth, -⟩ := hplaces index c hindex
  rw [depthOf_of_find? hm, depthOf_of_find? hn, hdepth]

theorem depthOf_root (hg : g.Reachable) (hnodup : (g.visibleTree roots policy).order.Nodup)
    {r : NodeId} (hr : r ∈ g.visibleRoots roots) :
    (g.visibleTree roots policy).depthOf r = 0 := by
  obtain ⟨rank, hrank⟩ := hg.exists_ranked
  have hfound := isSome_find?_of_isVisible (isVisible_of_mem_visibleRoots r hr)
  obtain ⟨n, hn⟩ := Option.isSome_iff_exists.mp hfound
  obtain ⟨index, hindex⟩ := List.mem_iff_getElem?.mp hr
  -- The root has a positive rank, so the walk has fuel for its visit.
  have hpos := (hrank.pos r hfound).trans_le (hrank.le r)
  obtain ⟨fuel, hfuel⟩ := Nat.exists_eq_succ_of_ne_zero hpos.ne'
  have hvisit : g.visit (g.visibleTree roots policy).depthLimit 0 index n
      ∈ g.treeVisits roots policy := by
    rw [treeVisits, hfuel]
    exact mem_visits_succ.mpr ⟨index, r, n, hindex, hn, Or.inl rfl⟩
  have hrecord := find?_of_nodup hnodup hvisit
  have hid : (g.visit (g.visibleTree roots policy).depthLimit 0 index n).node.id = r :=
    hg.id_of_find? hn
  rw [hid] at hrecord
  exact depthOf_of_find? hrecord

/-- Without nested roots the order of a tree is made of blocks, one for what lies below each
node. -/
theorem inBlocks_visibleTree (hg : g.Reachable) (hapart : g.NamedApart)
    (hroots : g.RootsApart (g.visibleRoots roots) (g.visibleTree roots policy).depthLimit) :
    (g.visibleTree roots policy).InBlocks := by
  have harranged := arranged_visibleTree hg hapart hroots
  have hnodup := harranged.once
  have hdescends := descends_placesAfter hg hnodup
  have hdepth : ∀ p, ∀ c ∈ (g.visibleTree roots policy).childrenOf p, _ :=
    fun p c hc => depthOf_child hg hnodup hc
  have hwhole : (g.visibleTree roots policy).order = (g.visibleTree roots policy).rootIds.flatMap
      fun r => r :: (g.visibleTree roots policy).descendants r := by
    rw [harranged.preorder]
    refine List.flatMap_congr fun r hr => subtree_eq_cons hdescends ?_
    exact (placesAfter_lt (harranged.root r hr).1).trans_le (length_order_le_size hnodup)
  have hparent : ∀ id p, (g.visibleTree roots policy).parentOf? id = some p →
      id ∈ (g.visibleTree roots policy).childrenOf p := by
    intro id p hp
    simpa using List.find?_some hp
  constructor
  case once => exact hnodup
  case kept =>
    intro id
    constructor
    · intro hid
      obtain ⟨n, hn, -⟩ := harranged.recorded id hid
      exact Option.isSome_of_eq_some hn
    · intro hfound
      obtain ⟨n, hn⟩ := Option.isSome_iff_exists.mp hfound
      obtain ⟨v, hv, rfl, rfl⟩ := exists_visit_of_find? hn
      exact List.mem_map_of_mem hv
  case whole => exact hwhole
  case block =>
    intro before id after hsplit
    rw [hwhole] at hsplit
    obtain ⟨rest, rfl, hshallow⟩ := exists_block hdescends hdepth
      (fun r hr => depthOf_root hg hnodup hr) hsplit
    rw [List.takeWhile_append_of_pos fun x hx => ?deeper]
    case deeper => exact decide_eq_true (depthOf_lt_of_mem_descendants hdescends hdepth hx)
    cases rest with
    | nil => rw [List.takeWhile_nil, List.append_nil]
    | cons x rest =>
      have hx := hshallow x rfl
      rw [List.takeWhile_cons_of_neg (by simpa using hx), List.append_nil]
  case found =>
    intro id
    have hfinds := stackFinds_append hdescends ((g.visibleTree roots policy).childrenOf id)
      StackFinds.done
    rwa [List.append_nil, List.append_nil, ← descendants_eq hdescends] at hfinds
  case root =>
    refine fun id hid => ⟨fun hnone => ?_, fun hr => (harranged.root id hr).2⟩
    rw [hwhole] at hid
    obtain ⟨r, hr, hid⟩ := List.mem_flatMap.mp hid
    rcases List.mem_cons.mp hid with rfl | hbelow
    · exact hr
    · obtain ⟨p, hp⟩ := exists_parent_of_mem_descendants hbelow
      rw [(harranged.child p id hp).2] at hnone
      cases hnone
  case parent => exact fun id p => ⟨hparent id p, fun hc => (harranged.child p id hc).2⟩
  case above =>
    intro id p hp
    have hc := hparent id p hp
    exact ⟨(mem_order_of_mem_childrenOf hc).1, depthOf_child hg hnodup hc⟩

/-- The two rows of a frame as roots: the cells follow the first row, and then comes the second. -/
theorem inBlocks_rows : (twoRows.visibleTree [⟨"a"⟩, ⟨"b"⟩] {}).InBlocks
    ∧ (twoRows.visibleTree [⟨"a"⟩, ⟨"b"⟩] {}).order = [⟨"a"⟩, ⟨"c"⟩, ⟨"d"⟩, ⟨"b"⟩]
    ∧ (twoRows.visibleTree [⟨"a"⟩, ⟨"b"⟩] {}).descendants ⟨"a"⟩ = [⟨"c"⟩, ⟨"d"⟩]
    ∧ (twoRows.visibleTree [⟨"a"⟩, ⟨"b"⟩] {}).parentOf? ⟨"d"⟩ = some ⟨"a"⟩ := by
  have hroots := (nodup_order_iff reachable_twoRows namedApart_twoRows [⟨"a"⟩, ⟨"b"⟩] {}).mp
    (by decide +kernel)
  refine ⟨inBlocks_visibleTree reachable_twoRows namedApart_twoRows hroots, ?_, ?_, ?_⟩
  all_goals decide +kernel

end SceneGraph

end SceneCompiler
