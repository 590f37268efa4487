import Mathlib
import SceneCompiler.Proofs.Tree.DepthLimit
/-!
# What a tree represents

A tree has one record for each name. As long as the walk comes to each node once, the records fit
together: children follow their parents one level deeper, and the capped nodes are those that lost
their children. The walk comes to a node twice when one root lies below another; then the record of
the last visit is kept for both.

* `represents_of_nodup`: the records of a tree without repetitions fit together.
* `nodup_listing_iff`: a listing has no repetitions when no node lies below another.
* `represents_iff`: the records fit together just when no root lies below another.
-/

namespace SceneCompiler.SceneGraph

/-! ## Definitions -/

/-- Different nodes have different names. -/
def NamedApart (g : SceneGraph) : Prop :=
  ∀ (i j : SlotIndex) (n m : SceneNode), g.nodeAt? i = some n → g.nodeAt? j = some m →
    n.id = m.id → i = j

/-- The records of a tree fit together, and represent what the tree keeps of the scene. -/
structure Represents (g : SceneGraph) (t : VisibleTree) : Prop where
  once : t.order.Nodup
  cappedOnce : t.cappedIds.Nodup
  capped : ∀ id, id ∈ t.cappedIds ↔ id ∈ t.order ∧ g.visibleChildIds id ≠ []
    ∧ ∃ n, t.find? id = some n ∧ n.children = []
  kept : ∀ id ∈ t.order, id ∉ t.cappedIds → ∃ n, t.find? id = some n
    ∧ n.children = g.visibleChildIds id ∧ ∀ index c, n.children[index]? = some c →
      c ∈ t.order ∧ ∃ m, t.find? c = some m ∧ m.depth = n.depth + 1 ∧ m.index = index

variable {g : SceneGraph} {rank : NodeId → Nat}

/-! ## Records -/

theorem children_of_capped {limit : Option Nat} {depth index : Nat} {n : SceneNode}
    (h : (g.visit limit depth index n).capped = true) :
    (g.visit limit depth index n).node.children = [] ∧ g.visibleChildIds n.id ≠ [] := by
  have hcapped : (limit.any (· ≤ depth) && !(g.visibleChildIds n.id).isEmpty) = true := h
  refine ⟨?_, by simpa using (Bool.and_eq_true_iff.mp hcapped).2⟩
  show (if limit.any (· ≤ depth) && !(g.visibleChildIds n.id).isEmpty then []
    else g.visibleChildIds n.id) = []
  rw [hcapped]
  rfl

theorem children_of_not_capped {limit : Option Nat} {depth index : Nat} {n : SceneNode}
    (h : ¬ (g.visit limit depth index n).capped = true) :
    (g.visit limit depth index n).node.children = g.visibleChildIds n.id := by
  have hcapped : ¬ (limit.any (· ≤ depth) && !(g.visibleChildIds n.id).isEmpty) = true := h
  show (if limit.any (· ≤ depth) && !(g.visibleChildIds n.id).isEmpty then []
    else g.visibleChildIds n.id) = _
  rw [if_neg hcapped]

theorem exists_visit {limit : Option Nat} {fuel depth : Nat} {ids : List NodeId} {v : Visit}
    (hv : v ∈ g.visits limit fuel depth ids) :
    ∃ depth' index n, v = g.visit limit depth' index n := by
  obtain ⟨_, n, depth', index, -, hvisit⟩ := exists_node_of_mem_visits hv
  exact ⟨depth', index, n, hvisit⟩

/-- The children that a visit records are visited one level deeper, each at its place. -/
theorem exists_visit_child (hrank : g.Ranked rank)
    (hnames : ∀ id n, g.find? id = some n → n.id = id) {limit : Option Nat} {fuel depth : Nat}
    {ids : List NodeId} (hle : ∀ id ∈ ids, rank id ≤ fuel) {v : Visit}
    (hv : v ∈ g.visits limit fuel depth ids) {index : Nat} {c : NodeId}
    (hc : v.node.children[index]? = some c) :
    ∃ w ∈ g.visits limit fuel depth ids, w.node.id = c ∧ w.node.depth = v.node.depth + 1
      ∧ w.node.index = index := by
  induction fuel generalizing depth ids with
  | zero => simp [visits] at hv
  | succ fuel ih =>
    obtain ⟨place, id, n, hplace, hn, hv⟩ := mem_visits_succ.mp hv
    have hchildren : ∀ c ∈ g.keptChildren limit depth n.id,
        (g.find? c).isSome ∧ rank c ≤ fuel := by
      intro c hc
      obtain ⟨hmem, hfound⟩ := mem_visibleChildIds (mem_keptChildren hc)
      have hlt := hrank.child n.id c hmem hfound
      have hparent := hle id (List.mem_of_getElem? hplace)
      rw [← hnames id n hn] at hparent
      exact ⟨hfound, by omega⟩
    have hlift : ∀ w ∈ g.visits limit fuel (depth + 1) (g.keptChildren limit depth n.id),
        w ∈ g.visits limit (fuel + 1) depth ids :=
      fun w hw => mem_visits_succ.mpr ⟨place, id, n, hplace, hn, Or.inr hw⟩
    rcases hv with rfl | hbelow
    · rw [children_visit] at hc
      obtain ⟨hfound, hrankc⟩ := hchildren c (List.mem_of_getElem? hc)
      obtain ⟨m, hm⟩ := Option.isSome_iff_exists.mp hfound
      -- The child has a positive rank, so there is fuel left to visit it.
      have hpos := hrank.pos c hfound
      obtain ⟨fuel, rfl⟩ : ∃ fuel', fuel = fuel' + 1 := ⟨fuel - 1, by omega⟩
      refine ⟨g.visit limit (depth + 1) index m, hlift _ ?_, hnames c m hm, rfl, rfl⟩
      exact mem_visits_succ.mpr ⟨index, c, m, hc, hm, Or.inl rfl⟩
    · obtain ⟨w, hw, hspec⟩ := ih (fun c hc => (hchildren c hc).2) hbelow
      exact ⟨w, hlift w hw, hspec⟩

/-- The visits that a tree is made of. -/
def treeVisits (g : SceneGraph) (roots : List NodeId) (policy : DepthPolicy) : List Visit :=
  g.visits (g.visibleTree roots policy).depthLimit g.owners.size 0 (g.visibleRoots roots)

theorem order_eq_map (roots : List NodeId) (policy : DepthPolicy) :
    (g.visibleTree roots policy).order = (g.treeVisits roots policy).map (·.node.id) :=
  rfl

theorem mem_cappedIds {roots : List NodeId} {policy : DepthPolicy} {id : NodeId} :
    id ∈ (g.visibleTree roots policy).cappedIds ↔
      ∃ v ∈ g.treeVisits roots policy, v.capped = true ∧ v.node.id = id := by
  rw [show (g.visibleTree roots policy).cappedIds =
    cappedNames (g.treeVisits roots policy) from rfl]
  simp [cappedNames, and_assoc]

/-- Where no name is visited twice the tree has the record of every visit. -/
theorem find?_of_nodup {roots : List NodeId} {policy : DepthPolicy}
    (hnodup : (g.visibleTree roots policy).order.Nodup) {v : Visit}
    (hv : v ∈ g.treeVisits roots policy) :
    (g.visibleTree roots policy).find? v.node.id = some v.node := by
  obtain ⟨before, after, hsplit⟩ := List.append_of_mem hv
  refine find?_visibleTree hsplit fun hagain => ?_
  rw [order_eq_map, hsplit, List.map_append, List.map_cons] at hnodup
  exact (List.nodup_cons.mp (List.nodup_append.mp hnodup).2.1).1 hagain

/-- The records of a tree without repetitions fit together. -/
theorem represents_of_nodup (hg : g.Reachable) {roots : List NodeId} {policy : DepthPolicy}
    (hnodup : (g.visibleTree roots policy).order.Nodup) :
    Represents g (g.visibleTree roots policy) := by
  obtain ⟨rank, hrank⟩ := hg.exists_ranked
  constructor
  case once => exact hnodup
  case cappedOnce => exact hnodup.sublist (List.filter_sublist.map _)
  case capped =>
    intro id
    constructor
    · intro hid
      obtain ⟨v, hv, hcapped, rfl⟩ := mem_cappedIds.mp hid
      obtain ⟨depth, index, n, rfl⟩ := exists_visit hv
      obtain ⟨hempty, hlost⟩ := children_of_capped hcapped
      exact ⟨List.mem_map_of_mem hv, hlost, _, find?_of_nodup hnodup hv, hempty⟩
    · rintro ⟨hid, hlost, n, hn, hempty⟩
      obtain ⟨v, hv, rfl⟩ := List.mem_map.mp hid
      refine mem_cappedIds.mpr ⟨v, hv, ?_, rfl⟩
      rw [find?_of_nodup hnodup hv, Option.some.injEq] at hn
      obtain ⟨depth, index, n, rfl⟩ := exists_visit hv
      by_contra hcapped
      rw [← hn, children_of_not_capped hcapped] at hempty
      exact hlost hempty
  case kept =>
    intro id hid hkept
    obtain ⟨v, hv, rfl⟩ := List.mem_map.mp hid
    have hcapped : ¬ v.capped = true := fun h => hkept (mem_cappedIds.mpr ⟨v, hv, h, rfl⟩)
    refine ⟨v.node, find?_of_nodup hnodup hv, ?_, fun index c hc => ?_⟩
    · obtain ⟨depth, index, n, rfl⟩ := exists_visit hv
      exact children_of_not_capped hcapped
    · obtain ⟨w, hw, rfl, hdepth, hindex⟩ := exists_visit_child hrank
        (fun _ _ => hg.id_of_find?) (fun id _ => hrank.le id) hv hc
      exact ⟨List.mem_map_of_mem hw, w.node, find?_of_nodup hnodup hw, hdepth, hindex⟩

/-! ## Forests -/

/-- No name is a child of two names, and none is a child twice. -/
structure Forest (g : SceneGraph) : Prop where
  parent : ∀ p q c, c ∈ g.visibleChildIds p → c ∈ g.visibleChildIds q → p = q
  children : ∀ p, (g.visibleChildIds p).Nodup

/-- A child has a slot that its parent's slot lists. -/
theorem Aged.exists_child {stamp : SlotIndex → Nat} {bound : Nat} (h : Aged g stamp bound)
    {p c : NodeId} (hchild : c ∈ g.childIds p) :
    ∃ (i j : SlotIndex) (s t : Slot), g.slots[i]? = some s ∧ s.node.id = p
      ∧ g.slots[j]? = some t ∧ t.node.id = c ∧ t.parent = some i := by
  unfold childIds indexOf? at hchild
  cases howner : g.owners[p]? with
  | none => simp [howner] at hchild
  | some i =>
    simp only [howner] at hchild
    obtain ⟨s, hs, hid, -⟩ := h.owner p i howner
    obtain ⟨j, hj, hnode⟩ := List.mem_filterMap.mp hchild
    unfold children at hj
    rw [hs] at hj
    obtain ⟨t, ht, hparent, -⟩ := h.child i s hs j hj
    unfold nodeAt? at hnode
    rw [ht] at hnode
    exact ⟨i, j, s, t, hs, hid, ht, Option.some.inj hnode, hparent⟩

theorem nodeAt?_eq {i : SlotIndex} {s : Slot} (h : g.slots[i]? = some s) :
    g.nodeAt? i = some s.node := by
  unfold nodeAt?
  rw [h]
  rfl

/-- Scenes whose names are apart are forests. -/
theorem forest_of_namedApart (hg : g.Reachable) (hapart : g.NamedApart) : Forest g := by
  obtain ⟨stamp, bound, haged⟩ := hg.exists_aged
  constructor
  case parent =>
    intro p q c hp hq
    obtain ⟨i, j, s, t, hs, rfl, ht, htc, hti⟩ := haged.exists_child (mem_visibleChildIds hp).1
    obtain ⟨i', j', s', t', hs', rfl, ht', htc', hti'⟩ :=
      haged.exists_child (mem_visibleChildIds hq).1
    -- Both parents list the one slot of the child's name, and that has one parent.
    obtain rfl := hapart j j' _ _ (nodeAt?_eq ht) (nodeAt?_eq ht') (htc.trans htc'.symm)
    obtain rfl := Option.some.inj (ht.symm.trans ht')
    obtain rfl := Option.some.inj (hti.symm.trans hti')
    rw [Option.some.inj (hs.symm.trans hs')]
  case children =>
    intro p
    refine List.Nodup.filter _ ?_
    unfold childIds
    split
    · next i hi =>
      obtain ⟨s, hs, -⟩ := haged.owner p i hi
      have hslots : (g.children i).Nodup := by
        unfold children
        rw [hs]
        exact haged.nodup i s hs
      refine hslots.filterMap fun a b c ha hb => ?_
      obtain ⟨n, hn, rfl⟩ := Option.map_eq_some_iff.mp ha
      obtain ⟨m, hm, hid⟩ := Option.map_eq_some_iff.mp hb
      exact hapart a b n m hn hm hid.symm
    · exact List.nodup_nil

/-! ## Repetitions -/

theorem exists_parent {d : Nat} {ids : List NodeId} {c : NodeId} (h : c ∈ g.level (d + 1) ids) :
    ∃ p ∈ g.level d ids, c ∈ g.visibleChildIds p := by
  rw [level_succ] at h
  exact List.mem_flatMap.mp h

theorem nodup_level (hforest : Forest g) {ids : List NodeId} (hids : ids.Nodup) (d : Nat) :
    (g.level d ids).Nodup := by
  induction d with
  | zero => exact hids
  | succ d ih =>
    rw [level_succ, List.nodup_flatMap]
    refine ⟨fun p _ => hforest.children p, ih.imp fun {p q} hne => ?_⟩
    exact fun c hp hq => hne (hforest.parent p q c hp hq)

/-- A node on two levels has an ancestor among the nodes above that is below one of them. -/
theorem exists_below_of_mem_levels (hforest : Forest g) {ids : List NodeId} {j k : Nat} {x : NodeId}
    (hj : x ∈ g.level j ids) (hk : x ∈ g.level (j + k) ids) : ∃ r ∈ ids, r ∈ g.level k ids := by
  induction j generalizing x with
  | zero => exact ⟨x, hj, by rwa [Nat.zero_add] at hk⟩
  | succ j ih =>
    rw [show j + 1 + k = j + k + 1 by omega] at hk
    obtain ⟨p, hp, hxp⟩ := exists_parent hj
    obtain ⟨q, hq, hxq⟩ := exists_parent hk
    rw [hforest.parent q p x hxq hxp] at hq
    exact ih hp hq

/-- A listing has no repetitions when none of its first nodes lies below another. -/
theorem nodup_listing_iff (hforest : Forest g) {ids : List NodeId} (hids : ids.Nodup) (d : Nat) :
    (g.listing d ids).Nodup ↔ ∀ k < d, ∀ x ∈ g.level (k + 1) ids, x ∉ ids := by
  rw [(listing_perm d ids).nodup_iff]
  constructor
  · intro hnodup k hk x hx hxids
    rw [List.range_succ_eq_map, List.flatMap_cons, List.flatMap_map] at hnodup
    have hbelow : x ∈ (List.range d).flatMap fun k => g.level (k + 1) ids :=
      List.mem_flatMap.mpr ⟨k, List.mem_range.mpr hk, hx⟩
    exact (List.nodup_append.mp hnodup).2.2 x hxids x hbelow rfl
  · intro hapart
    rw [List.nodup_flatMap]
    refine ⟨fun k _ => nodup_level hforest hids k, ?_⟩
    refine List.pairwise_lt_range.imp_of_mem fun {j k} _ hk hlt x hj hx => ?_
    obtain ⟨m, rfl⟩ : ∃ m, k = j + (m + 1) := ⟨k - j - 1, by omega⟩
    obtain ⟨r, hr, hbelow⟩ := exists_below_of_mem_levels hforest hj hx
    exact hapart m (by have := List.mem_range.mp hk; omega) r hbelow hr

/-- No root lies below another one, as deep as the limit lets the walk go. -/
def RootsApart (g : SceneGraph) (rootIds : List NodeId) (limit : Option Nat) : Prop :=
  ∀ r ∈ rootIds, ∀ k, (∀ l ∈ limit, k < l) → ∀ x ∈ g.level (k + 1) [r], x ∉ rootIds

theorem nodup_order_iff (hg : g.Reachable) (hapart : g.NamedApart) (roots : List NodeId)
    (policy : DepthPolicy) : (g.visibleTree roots policy).order.Nodup ↔
      g.RootsApart (g.visibleRoots roots) (g.visibleTree roots policy).depthLimit := by
  rw [order_visibleTree hg, nodup_listing_iff (forest_of_namedApart hg hapart)
    (nodup_visibleRoots roots)]
  have hbelow : ∀ {k x r}, r ∈ g.visibleRoots roots → x ∈ g.level (k + 1) [r] →
      x ∈ g.level (k + 1) (g.visibleRoots roots) := by
    intro k x r hr hx
    rw [level_eq_flatMap]
    exact List.mem_flatMap.mpr ⟨r, hr, hx⟩
  constructor
  · intro h r hr k hk x hx
    refine h k ?_ x (hbelow hr hx)
    cases hlimit : (g.visibleTree roots policy).depthLimit with
    | some l => exact hk l hlimit
    | none =>
      -- Without a limit the walk is as deep as the scene.
      by_contra hdeep
      have hnil := level_eq_nil_of_le (e := k + 1)
        (by simpa using Nat.le_succ_of_le (not_lt.mp hdeep))
        (level_owners_eq_nil hg roots)
      have hmem := hbelow hr hx
      rw [hnil] at hmem
      cases hmem
  · intro h k hk x hx
    rw [level_eq_flatMap] at hx
    obtain ⟨r, hr, hx⟩ := List.mem_flatMap.mp hx
    refine h r hr k (fun l hl => ?_) x hx
    rw [show (g.visibleTree roots policy).depthLimit = some l from hl] at hk
    exact hk

/-- The records of a tree fit together just when no root lies below another. -/
theorem represents_iff (hg : g.Reachable) (hapart : g.NamedApart) (roots : List NodeId)
    (policy : DepthPolicy) : Represents g (g.visibleTree roots policy) ↔
      g.RootsApart (g.visibleRoots roots) (g.visibleTree roots policy).depthLimit := by
  rw [← nodup_order_iff hg hapart]
  exact ⟨fun h => h.once, represents_of_nodup hg⟩

/-! ### The frame with two rows -/

theorem namedApart_of_nodup (h : (g.slots.toList.map fun p => p.2.node.id).Nodup) :
    g.NamedApart := by
  intro i j n m hn hm hid
  obtain ⟨s, hs, rfl⟩ := Option.map_eq_some_iff.mp hn
  obtain ⟨t, ht, rfl⟩ := Option.map_eq_some_iff.mp hm
  have hmem := Std.ExtTreeMap.mem_toList_iff_getElem?_eq_some.mpr hs
  have hmem' := Std.ExtTreeMap.mem_toList_iff_getElem?_eq_some.mpr ht
  exact congrArg Prod.fst (List.inj_on_of_nodup_map h hmem hmem' hid)

theorem namedApart_twoRows : twoRows.NamedApart :=
  namedApart_of_nodup (by decide +kernel)

/-- The frame alone has a tree whose records fit together, also where it is cut off. -/
theorem represents_frame : Represents twoRows (twoRows.visibleTree [⟨"f"⟩] ⟨3, 3⟩) := by
  refine (represents_iff reachable_twoRows namedApart_twoRows [⟨"f"⟩] ⟨3, 3⟩).mpr ?_
  have hroots : twoRows.visibleRoots [⟨"f"⟩] = [⟨"f"⟩] := by decide +kernel
  have hlimit : (twoRows.visibleTree [⟨"f"⟩] ⟨3, 3⟩).depthLimit = some 1 := by decide +kernel
  rw [hroots, hlimit]
  intro r hr k hk
  obtain rfl := List.mem_singleton.mp hr
  obtain rfl : k = 0 := Nat.lt_one_iff.mp (hk 1 rfl)
  decide +kernel

/-- With its first row selected too the frame has a tree that lists the row twice, once capped, and
keeps the record with the children. -/
theorem not_represents_frame_and_row :
    twoRows.NamedApart ∧ ¬ Represents twoRows (twoRows.visibleTree [⟨"f"⟩, ⟨"a"⟩] ⟨7, 6⟩)
      ∧ (twoRows.visibleTree [⟨"f"⟩, ⟨"a"⟩] ⟨7, 6⟩).order
        = [⟨"f"⟩, ⟨"a"⟩, ⟨"b"⟩, ⟨"a"⟩, ⟨"c"⟩, ⟨"d"⟩]
      ∧ (twoRows.visibleTree [⟨"f"⟩, ⟨"a"⟩] ⟨7, 6⟩).cappedIds = [⟨"a"⟩]
      ∧ (twoRows.visibleTree [⟨"f"⟩, ⟨"a"⟩] ⟨7, 6⟩).childrenOf ⟨"a"⟩ = [⟨"c"⟩, ⟨"d"⟩] := by
  have horder : (twoRows.visibleTree [⟨"f"⟩, ⟨"a"⟩] ⟨7, 6⟩).order
      = [⟨"f"⟩, ⟨"a"⟩, ⟨"b"⟩, ⟨"a"⟩, ⟨"c"⟩, ⟨"d"⟩] := by decide +kernel
  refine ⟨namedApart_twoRows, fun h => ?_, horder, by decide +kernel, by decide +kernel⟩
  have honce := h.once
  rw [horder] at honce
  revert honce
  decide

end SceneCompiler.SceneGraph
