import Mathlib
import SceneCompiler.Proofs.Tree.Represents
/-!
# Trees in pre-order

Where no root lies below another the walk comes to each node once, and the records of a tree say the
same as its order: the order is the pre-order of the records, every node but the roots is a child of
one node, and what lies below a node does so by a path of children.

* `subtree_eq_cons`, `descendants_trans`: subtrees, as far as the fuel lasts.
* `arranged_visibleTree`: the tree of a scene is arranged as its order says.
-/

namespace SceneCompiler

namespace VisibleTree

/-! ## Subtrees -/

/-- A rank drops from parents to children, and stays below the fuel of subtrees. -/
structure Descends (t : VisibleTree) (rank : NodeId → Nat) : Prop where
  child : ∀ p, ∀ c ∈ t.childrenOf p, rank c < rank p ∧ rank p < t.nodes.size

variable {t : VisibleTree} {rank : NodeId → Nat}

theorem childrenOf_of_find? {id : NodeId} {n : VisibleNode} (h : t.find? id = some n) :
    t.childrenOf id = n.children := by
  rw [childrenOf, h, Option.map_some, Option.getD_some]

/-- Fuel beyond the rank of a node adds nothing to its subtree. -/
theorem subtree_congr (h : t.Descends rank) {fuel fuel' : Nat} {id : NodeId}
    (hfuel : rank id < fuel) (hfuel' : rank id < fuel') : t.subtree fuel id = t.subtree fuel' id := by
  induction fuel generalizing fuel' id with
  | zero => omega
  | succ fuel ih =>
    obtain ⟨fuel', rfl⟩ : ∃ k, fuel' = k + 1 := ⟨fuel' - 1, by omega⟩
    rw [subtree, subtree]
    congr 1
    refine List.flatMap_congr fun c hc => ?_
    have hlt := (h.child id c hc).1
    exact ih (by omega) (by omega)

/-- A node comes before everything below it. -/
theorem subtree_eq_cons (h : t.Descends rank) {fuel : Nat} {id : NodeId} (hfuel : rank id < fuel) :
    t.subtree fuel id = id :: t.descendants id := by
  obtain ⟨fuel, rfl⟩ : ∃ k, fuel = k + 1 := ⟨fuel - 1, by omega⟩
  rw [subtree, descendants]
  congr 1
  refine List.flatMap_congr fun c hc => ?_
  have hchild := h.child id c hc
  exact subtree_congr h (by omega) (by omega)

theorem descendants_eq (h : t.Descends rank) (id : NodeId) :
    t.descendants id = (t.childrenOf id).flatMap fun c => c :: t.descendants c := by
  rw [descendants]
  refine List.flatMap_congr fun c hc => ?_
  have hchild := h.child id c hc
  exact subtree_eq_cons h (by omega)

theorem mem_descendants_of_mem_children (h : t.Descends rank) {p c : NodeId}
    (hc : c ∈ t.childrenOf p) : c ∈ t.descendants p := by
  rw [descendants_eq h]
  exact List.mem_flatMap.mpr ⟨c, hc, List.mem_cons_self⟩

/-- What lies below something below a node lies below the node. -/
theorem descendants_trans (h : t.Descends rank) {a b c : NodeId} (hb : b ∈ t.descendants a)
    (hc : c ∈ t.descendants b) : c ∈ t.descendants a := by
  -- The induction is on the rank of the upper node, which drops to the child on the way to `b`.
  induction hrank : rank a using Nat.strong_induction_on generalizing a with
  | h n ih =>
    rw [descendants_eq h] at hb
    obtain ⟨child, hchild, hb⟩ := List.mem_flatMap.mp hb
    rw [descendants_eq h]
    refine List.mem_flatMap.mpr ⟨child, hchild, List.mem_cons_of_mem _ ?_⟩
    rcases List.mem_cons.mp hb with rfl | hb
    · exact hc
    · exact ih _ (hrank ▸ (h.child a child hchild).1) hb rfl

/-- Where no node comes twice a root has no parent: it would come again below the root that its
parent belongs to. -/
theorem parentOf?_of_mem_rootIds (h : t.Descends rank) (hnodup : t.order.Nodup)
    (hpreorder : t.order = t.rootIds.flatMap fun r => r :: t.descendants r) {r : NodeId}
    (hr : r ∈ t.rootIds) : t.parentOf? r = none := by
  unfold parentOf?
  rw [List.find?_eq_none]
  intro p hp hc
  rw [List.contains_iff_mem] at hc
  rw [hpreorder] at hp hnodup
  obtain ⟨top, htop, hp⟩ := List.mem_flatMap.mp hp
  have hbelow : r ∈ t.descendants top := by
    rcases List.mem_cons.mp hp with rfl | hp
    · exact mem_descendants_of_mem_children h hc
    · exact descendants_trans h hp (mem_descendants_of_mem_children h hc)
  obtain ⟨hblocks, hdisjoint⟩ := List.nodup_flatMap.mp hnodup
  by_cases heq : top = r
  · rw [← heq] at hbelow
    exact (List.nodup_cons.mp (hblocks top htop)).1 hbelow
  · have : Std.Symm (Function.onFun List.Disjoint fun r => r :: t.descendants r) :=
      ⟨fun _ _ hd => hd.symm⟩
    exact hdisjoint.forall htop hr heq (List.mem_cons_of_mem _ hbelow) List.mem_cons_self

/-! ## Arranged trees -/

/-- The records of a tree say the same as its order. -/
structure Arranged (t : VisibleTree) : Prop where
  once : t.order.Nodup
  recorded : ∀ id ∈ t.order, ∃ n, t.find? id = some n ∧ n.id = id
  preorder : t.order = t.rootIds.flatMap (t.subtree t.nodes.size)
  child : ∀ p, ∀ c ∈ t.childrenOf p, c ∈ t.order ∧ t.parentOf? c = some p
  root : ∀ r ∈ t.rootIds, r ∈ t.order ∧ t.parentOf? r = none
  below : ∀ a b c, b ∈ t.descendants a → c ∈ t.childrenOf b → c ∈ t.descendants a
  children : ∀ p, ∀ c ∈ t.childrenOf p, c ∈ t.descendants p

end VisibleTree

namespace SceneGraph

open VisibleTree

variable {g : SceneGraph} {rank : NodeId → Nat}

/-- The tree has no records but those of visits. -/
theorem exists_visit_of_find? {roots : List NodeId} {policy : DepthPolicy} {id : NodeId}
    {n : VisibleNode} (h : (g.visibleTree roots policy).find? id = some n) :
    ∃ v ∈ g.treeVisits roots policy, v.node = n ∧ n.id = id := by
  have hnodes : (g.visibleTree roots policy).find? id
      = ((g.treeVisits roots policy).foldl (fun nodes v => nodes.insert v.node.id v.node)
          (∅ : Std.ExtTreeMap NodeId VisibleNode))[id]? := rfl
  rw [hnodes, getElem?_foldl_insert (fun v : Visit => v.node.id) (fun v => v.node)] at h
  cases hfind : (g.treeVisits roots policy).reverse.find? (fun v => v.node.id = id) with
  | none => simp [hfind] at h
  | some v =>
    rw [hfind] at h
    obtain rfl : v.node = n := by simpa using h
    exact ⟨v, List.mem_reverse.mp (List.mem_of_find?_eq_some hfind), rfl,
      by simpa using List.find?_some hfind⟩

/-- The record of a node in a tree is that of a visit of the node. -/
theorem exists_visit_of_sceneNode (hg : g.Reachable) {roots : List NodeId} {policy : DepthPolicy}
    {id : NodeId} {sn : SceneNode} {n : VisibleNode} (hsn : g.find? id = some sn)
    (hn : (g.visibleTree roots policy).find? id = some n) :
    id ∈ (g.visibleTree roots policy).order
      ∧ ∃ limit depth index, n = (g.visit limit depth index sn).node := by
  obtain ⟨v, hv, rfl, rfl⟩ := exists_visit_of_find? hn
  refine ⟨List.mem_map_of_mem hv, ?_⟩
  obtain ⟨id, found, depth, index, hfound, rfl⟩ := exists_node_of_mem_visits hv
  have hid : (g.visit (g.visibleTree roots policy).depthLimit depth index found).node.id = id :=
    hg.id_of_find? hfound
  rw [hid, hfound] at hsn
  obtain rfl := Option.some.inj hsn
  exact ⟨_, depth, index, rfl⟩

/-- The children that a tree records are visible children. -/
theorem mem_order_of_mem_childrenOf {roots : List NodeId} {policy : DepthPolicy} {p c : NodeId}
    (h : c ∈ (g.visibleTree roots policy).childrenOf p) :
    p ∈ (g.visibleTree roots policy).order ∧ c ∈ g.visibleChildIds p := by
  unfold childrenOf at h
  cases hfind : (g.visibleTree roots policy).find? p with
  | none => simp [hfind] at h
  | some n =>
    obtain ⟨v, hv, rfl, rfl⟩ := exists_visit_of_find? hfind
    obtain ⟨depth, index, n, rfl⟩ := exists_visit hv
    rw [hfind] at h
    exact ⟨List.mem_map_of_mem hv, mem_children_visit h⟩

/-- The walk is the pre-order of any tree that has the records of its visits. -/
theorem map_visits_eq_subtree (hnames : ∀ id n, g.find? id = some n → n.id = id)
    {t : VisibleTree} {limit : Option Nat} {fuel depth : Nat} {ids : List NodeId}
    (hids : ∀ id ∈ ids, g.isVisible id)
    (hrecords : ∀ v ∈ g.visits limit fuel depth ids, t.find? v.node.id = some v.node) :
    (g.visits limit fuel depth ids).map (·.node.id) = ids.flatMap (t.subtree fuel) := by
  rw [List.map_eq_flatMap]
  induction fuel generalizing depth ids with
  | zero => simp [visits, VisibleTree.subtree]
  | succ fuel ih =>
    rw [flatMap_visits_succ hnames (fun id => [id]) (fun _ _ => rfl) fuel hids]
    refine List.flatMap_congr fun id hid => ?_
    obtain ⟨n, hn⟩ := Option.isSome_iff_exists.mp (isSome_find?_of_isVisible (hids id hid))
    obtain ⟨index, hindex⟩ := List.mem_iff_getElem?.mp hid
    have hname : n.id = id := hnames id n hn
    have hrecord := hrecords _ (mem_visits_succ.mpr ⟨index, id, n, hindex, hn, Or.inl rfl⟩)
    have hchildren : t.childrenOf id = g.keptChildren limit depth id := by
      have hid' : (g.visit limit depth index n).node.id = id := hname
      rw [hid'] at hrecord
      rw [childrenOf_of_find? hrecord, children_visit, hname]
    rw [VisibleTree.subtree, hchildren, ih, List.singleton_append]
    · exact fun c hc => (List.mem_filter.mp (mem_keptChildren hc)).2
    · intro v hv
      refine hrecords v (mem_visits_succ.mpr ⟨index, id, n, hindex, hn, Or.inr ?_⟩)
      rwa [hname]

/-- Only nodes of the scene are visited. -/
theorem isSome_find?_of_mem_visits (hnames : ∀ id n, g.find? id = some n → n.id = id)
    {limit : Option Nat} {fuel depth : Nat} {ids : List NodeId} {v : Visit}
    (hv : v ∈ g.visits limit fuel depth ids) : (g.find? v.node.id).isSome := by
  obtain ⟨id, n, depth', index, hn, rfl⟩ := exists_node_of_mem_visits hv
  have hid : (g.visit limit depth' index n).node.id = id := hnames id n hn
  rw [hid, hn, Option.isSome_some]

variable {roots : List NodeId} {policy : DepthPolicy}

/-- A table has at least as many entries as different keys were found in it. -/
theorem length_le_size {β : Type} {table : Std.ExtTreeMap NodeId β} {ids : List NodeId}
    (hnodup : ids.Nodup) (hids : ∀ id ∈ ids, (table[id]?).isSome) : ids.length ≤ table.size := by
  rw [← Std.ExtTreeMap.length_keys]
  refine (List.subperm_of_subset hnodup fun id hid => ?_).length_le
  exact Std.ExtTreeMap.mem_keys.mpr (Std.ExtTreeMap.mem_iff_isSome_getElem?.mpr (hids id hid))

theorem length_order_le_size (hnodup : (g.visibleTree roots policy).order.Nodup) :
    (g.visibleTree roots policy).order.length ≤ (g.visibleTree roots policy).nodes.size := by
  refine length_le_size hnodup fun id hid => ?_
  obtain ⟨n, hn, -⟩ := exists_find?_visibleTree hid
  exact Option.isSome_of_eq_some hn

theorem length_order_le_owners (hg : g.Reachable)
    (hnodup : (g.visibleTree roots policy).order.Nodup) :
    (g.visibleTree roots policy).order.length ≤ g.owners.size := by
  refine length_le_size hnodup fun id hid => ?_
  obtain ⟨v, hv, rfl⟩ := List.mem_map.mp hid
  obtain ⟨i, hi⟩ := exists_owner (isSome_find?_of_mem_visits (fun _ _ => hg.id_of_find?) hv)
  exact Option.isSome_of_eq_some hi

/-- How many places of the order come after a node. -/
def placesAfter (t : VisibleTree) (id : NodeId) : Nat :=
  t.order.length - 1 - t.order.idxOf id

theorem placesAfter_lt {t : VisibleTree} {id : NodeId} (h : id ∈ t.order) :
    placesAfter t id < t.order.length := by
  have := List.length_pos_of_mem h
  unfold placesAfter
  omega

theorem placesAfter_lt_of_comesAfter {t : VisibleTree} (hnodup : t.order.Nodup) {p c : NodeId}
    (hp : p ∈ t.order) (hc : t.ComesAfter p c) : placesAfter t c < placesAfter t p := by
  obtain ⟨before, after, hsplit⟩ := List.append_of_mem hp
  rw [hsplit] at hnodup
  obtain ⟨hbefore, hrest, hapart⟩ := List.nodup_append.mp hnodup
  have hafter := hc before after hsplit (List.nodup_cons.mp hrest).1
  have hpc : p ≠ c := fun h => (List.nodup_cons.mp hrest).1 (h ▸ hafter)
  have hpbefore : p ∉ before := fun h => hapart p h p List.mem_cons_self rfl
  have hcbefore : c ∉ before := fun h => hapart c h c (List.mem_cons_of_mem _ hafter) rfl
  have hplace := List.idxOf_lt_length_of_mem hafter
  unfold placesAfter
  rw [hsplit, List.idxOf_append_of_notMem hpbefore, List.idxOf_append_of_notMem hcbefore,
    List.idxOf_cons_self, List.idxOf_cons_ne _ hpc, List.length_append, List.length_cons]
  omega

theorem descends_placesAfter (hg : g.Reachable)
    (hnodup : (g.visibleTree roots policy).order.Nodup) :
    (g.visibleTree roots policy).Descends (placesAfter (g.visibleTree roots policy)) := by
  refine ⟨fun p c hc => ?_⟩
  have hp := (mem_order_of_mem_childrenOf hc).1
  exact ⟨placesAfter_lt_of_comesAfter hnodup hp (comesAfter_of_mem_childrenOf hg roots policy hc),
    (placesAfter_lt hp).trans_le (length_order_le_size hnodup)⟩

theorem mem_order_of_mem_visibleRoots (hg : g.Reachable) (policy : DepthPolicy) {r : NodeId}
    (hr : r ∈ g.visibleRoots roots) : r ∈ (g.visibleTree roots policy).order := by
  obtain ⟨rank, hrank⟩ := hg.exists_ranked
  have hfound := isSome_find?_of_isVisible (List.mem_filter.mp hr).2
  obtain ⟨n, hn⟩ := Option.isSome_iff_exists.mp hfound
  have hpos := (hrank.pos r hfound).trans_le (hrank.le r)
  obtain ⟨fuel, hfuel⟩ : ∃ k, g.owners.size = k + 1 := Nat.exists_eq_succ_of_ne_zero hpos.ne'
  have hvisited := mem_visits (g.visibleTree roots policy).depthLimit fuel 0 hr hn
  rwa [hg.id_of_find? hn, ← hfuel] at hvisited

/-- The order of a tree in which no node comes twice is the pre-order of its records. -/
theorem order_eq_preorder (hg : g.Reachable)
    (hnodup : (g.visibleTree roots policy).order.Nodup) :
    (g.visibleTree roots policy).order = (g.visibleTree roots policy).rootIds.flatMap
      ((g.visibleTree roots policy).subtree (g.visibleTree roots policy).nodes.size) := by
  have hvisible : ∀ r ∈ g.visibleRoots roots, g.isVisible r := fun r hr => (List.mem_filter.mp hr).2
  have hwalk := map_visits_eq_subtree (fun _ _ => hg.id_of_find?) hvisible fun v hv =>
    find?_of_nodup hnodup hv
  rw [order_eq_map, treeVisits, hwalk]
  refine List.flatMap_congr fun r hr => ?_
  have hplace := placesAfter_lt (mem_order_of_mem_visibleRoots hg policy hr)
  exact subtree_congr (descends_placesAfter hg hnodup)
    (hplace.trans_le (length_order_le_owners hg hnodup))
    (hplace.trans_le (length_order_le_size hnodup))

theorem parentOf?_of_mem_childrenOf (hg : g.Reachable) (hapart : g.NamedApart) {p c : NodeId}
    (hc : c ∈ (g.visibleTree roots policy).childrenOf p) :
    (g.visibleTree roots policy).parentOf? c = some p := by
  obtain ⟨hp, hchild⟩ := mem_order_of_mem_childrenOf hc
  unfold parentOf?
  cases hfind : (g.visibleTree roots policy).order.find?
      fun p => ((g.visibleTree roots policy).childrenOf p).contains c with
  | none =>
    rw [List.find?_eq_none] at hfind
    exact absurd (List.contains_iff_mem.mpr hc) (hfind p hp)
  | some q =>
    have hq : c ∈ (g.visibleTree roots policy).childrenOf q := by
      simpa using List.find?_some hfind
    rw [(forest_of_namedApart hg hapart).parent q p c (mem_order_of_mem_childrenOf hq).2 hchild]

/-- Without nested roots the tree of a scene is arranged as its order says. -/
theorem arranged_visibleTree (hg : g.Reachable) (hapart : g.NamedApart)
    (hroots : g.RootsApart (g.visibleRoots roots) (g.visibleTree roots policy).depthLimit) :
    (g.visibleTree roots policy).Arranged := by
  have hnodup := (nodup_order_iff hg hapart roots policy).mpr hroots
  have hdescends := descends_placesAfter hg hnodup
  have hchild : ∀ p, ∀ c ∈ (g.visibleTree roots policy).childrenOf p,
      c ∈ (g.visibleTree roots policy).descendants p :=
    fun p c hc => mem_descendants_of_mem_children hdescends hc
  constructor
  case once => exact hnodup
  case recorded => exact fun id hid => exists_find?_visibleTree hid
  case preorder => exact order_eq_preorder hg hnodup
  case child =>
    intro p c hc
    obtain ⟨before, after, hsplit, hlast⟩ :=
      exists_last_place (mem_order_of_mem_childrenOf hc).1
    have hafter := comesAfter_of_mem_childrenOf hg roots policy hc before after hsplit hlast
    refine ⟨?_, parentOf?_of_mem_childrenOf hg hapart hc⟩
    rw [hsplit]
    exact List.mem_append_right _ (List.mem_cons_of_mem _ hafter)
  case root =>
    refine fun r hr => ⟨mem_order_of_mem_visibleRoots hg policy hr,
      parentOf?_of_mem_rootIds hdescends hnodup ?_ hr⟩
    rw [order_eq_preorder hg hnodup]
    refine List.flatMap_congr fun r hr => subtree_eq_cons hdescends ?_
    exact (placesAfter_lt (mem_order_of_mem_visibleRoots hg policy hr)).trans_le
      (length_order_le_size hnodup)
  case below => exact fun a b c hb hc => descendants_trans hdescends hb (hchild b c hc)
  case children => exact hchild

end SceneGraph

end SceneCompiler
