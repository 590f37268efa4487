import Mathlib
import SceneCompiler.Proofs.Scene.Chronicle
import SceneCompiler.Proofs.Tree.Represents
/-!
# Scenes are forests

Whatever is added and removed, the nodes of a scene form a forest, names lead to nodes of those
names, and the walk up to the top of a tree ends. Removing a subtree takes its nodes out and leaves
the rest as it was. It also takes the names of its nodes away from other nodes that carry them, so a
node may not be found again even when it has become the only one of its name.

* `climbs_iff`: the walk up ends, and it tells whether all nodes on its way are visible.
* `subtreeRemoved_removeNode`: what removing a subtree does.
* `sound_of_run`: what is true of every scene that comes about.
-/

namespace SceneCompiler

namespace SceneGraph

variable {g : SceneGraph} {stamp : SlotIndex → Nat} {bound : Nat} {i j p : SlotIndex}

/-! ## Definitions -/

/-- The nodes form a forest, and the roots are the tops of its trees. -/
structure IsForest (g : SceneGraph) : Prop where
  edges : ∀ p j, j ∈ g.children p ↔ g.ParentOf p j
  once : ∀ p, (g.children p).Nodup
  oneParent : ∀ p q j, j ∈ g.children p → j ∈ g.children q → p = q
  filled : ∀ p j, g.ParentOf p j → p ∈ g.slots ∧ j ∈ g.slots
  acyclic : ∀ i, ¬ Relation.TransGen g.ParentOf i i
  roots : ∀ i, i ∈ g.roots ↔ i ∈ g.slots ∧ g.parent? i = none
  rootsOnce : g.roots.Nodup

/-- A node that is there and visible by its own flag. -/
def Shown (g : SceneGraph) (i : SlotIndex) : Prop :=
  ∃ n, g.nodeAt? i = some n ∧ n.visible = true

/-- The walk from a node up to the top of its tree stops with an answer: at the first node that is
not visible, or when it has passed the top. -/
inductive Climbs (g : SceneGraph) : SlotIndex → Bool → Prop where
  | hidden {i : SlotIndex} (hidden : ¬ g.Shown i) : Climbs g i false
  | top {i : SlotIndex} (shown : g.Shown i) (top : g.parent? i = none) : Climbs g i true
  | up {i p : SlotIndex} {answer : Bool} (shown : g.Shown i) (parent : g.ParentOf p i)
      (rest : Climbs g p answer) : Climbs g i answer

/-- `g'` is `g` without a subtree. -/
structure SubtreeRemoved (g g' : SceneGraph) (i : SlotIndex) : Prop where
  gone : ∀ j, g.Above i j → g'.nodeAt? j = none
  kept : ∀ j, ¬ g.Above i j → g'.nodeAt? j = g.nodeAt? j ∧ g'.parent? j = g.parent? j
  children : ∀ j, ¬ g.Above i j → ¬ g.ParentOf j i → g'.children j = g.children j
  lostChild : ∀ p, g.ParentOf p i → g'.children p = (g.children p).erase i
  unfound : ∀ j n, g.Above i j → g.nodeAt? j = some n → g'.indexOf? n.id = none
  found : ∀ j n, ¬ g.Above i j → g.nodeAt? j = some n → g'.indexOf? n.id = g.indexOf? n.id

/-! ## Forests -/

theorem isForest_of_linked (h : Aged g stamp bound) (hg : Linked g) : IsForest g where
  edges := hg.listed
  once p := (hg.increasing p).imp Nat.ne_of_lt
  oneParent p q j hp hq := Option.some.inj
    ((show g.parent? j = some p from (hg.listed p j).mp hp).symm.trans ((hg.listed q j).mp hq))
  filled p j hj := ⟨(h.of_mem_children ((hg.listed p j).mpr hj)).1, hj.mem_slots⟩
  acyclic := hg.acyclic h
  roots := hg.roots
  rootsOnce := hg.rootsOnce

/-- Parents and children agree in every scene that comes about. -/
theorem Reachable.linked (hg : g.Reachable) : Linked g := by
  induction hg with
  | empty => exact linked_empty
  | addRoot hg node ih =>
    obtain ⟨stamp, bound, haged⟩ := hg.exists_aged
    exact ih.inserted haged (inserted_addRoot haged node) nofun rfl
  | addNode hg filled node ih =>
    obtain ⟨stamp, bound, haged⟩ := hg.exists_aged
    refine ih.inserted haged (inserted_addNode haged node) (fun p hp => ?_) rfl
    obtain rfl := Option.some.inj hp
    exact filled
  | removeNode hg i ih =>
    obtain ⟨stamp, bound, haged⟩ := hg.exists_aged
    exact ih.removeNode haged i
  | defineVariable _ v ih => exact { ih with }
  | select _ ids ih => exact { ih with }

/-! ## The walk up -/

theorem Climbs.unique {a b : Bool} (ha : g.Climbs i a) (hb : g.Climbs i b) : a = b := by
  induction ha with
  | hidden hidden =>
    cases hb with
    | hidden _ => rfl
    | top shown _ => exact absurd shown hidden
    | up shown _ _ => exact absurd shown hidden
  | top shown top =>
    cases hb with
    | hidden hidden => exact absurd shown hidden
    | top _ _ => rfl
    | up _ parent _ => exact absurd (top.symm.trans parent) nofun
  | up shown parent _ ih =>
    cases hb with
    | hidden hidden => exact absurd shown hidden
    | top _ top => exact absurd (top.symm.trans parent) nofun
    | up _ parent' rest =>
      obtain rfl := Option.some.inj (parent.symm.trans parent')
      exact ih rest

theorem any_visible_eq_true : (g.nodeAt? i).any (·.visible) = true ↔ g.Shown i := by
  unfold Shown
  rw [Option.any_eq_true]

/-- The walk up looks at the lineage of a slot. -/
theorem climbs_lineage (h : Aged g stamp bound) (hg : Linked g) {fuel : Nat} (hi : i ∈ g.slots)
    (hle : g.countUpTo stamp (stamp i) ≤ fuel) :
    g.Climbs i ((g.lineage fuel i).all fun j => (g.nodeAt? j).any (·.visible)) := by
  induction fuel generalizing i with
  | zero =>
    have hpos := countUpTo_pos stamp hi
    omega
  | succ fuel ih =>
    rw [lineage, List.all_cons]
    -- A node that is not visible ends the walk; else it goes on at the parent.
    by_cases hshown : g.Shown i
    · rw [any_visible_eq_true.mpr hshown, Bool.true_and]
      cases hp : g.parent? i with
      | none => exact Climbs.top hshown hp
      | some p =>
        -- The parent is older, so it has fewer slots at or before its time.
        obtain ⟨hfilled, -, hlt⟩ := h.of_mem_children ((hg.listed p i).mpr hp)
        have hfewer := countUpTo_lt stamp hi hlt
        exact Climbs.up hshown hp (ih hfilled (by omega))
    · rw [Bool.eq_false_iff.mpr (mt any_visible_eq_true.mp hshown), Bool.false_and]
      exact Climbs.hidden hshown

/-- The walk up from the node of a name stops with one answer. -/
theorem climbs_iff (h : Aged g stamp bound) (hg : Linked g) {id : NodeId}
    (hid : g.indexOf? id = some i) (answer : Bool) :
    g.Climbs i answer ↔ answer = g.isEffectivelyVisible id := by
  obtain ⟨s, hs, -⟩ := h.owner id i hid
  have hwalk : g.Climbs i (g.isEffectivelyVisible id) := by
    unfold isEffectivelyVisible
    rw [hid]
    exact climbs_lineage h hg (mem_slots.mpr ⟨s, hs⟩) (countUpTo_le _ _)
  constructor
  · exact fun hanswer => hanswer.unique hwalk
  · rintro rfl
    exact hwalk

/-- A name counts as visible just when its node and all ancestors of that are visible. -/
theorem isEffectivelyVisible_iff (h : Aged g stamp bound) (hg : Linked g) (id : NodeId) :
    g.isEffectivelyVisible id = true ↔
      ∃ i, g.indexOf? id = some i ∧ ∀ j, g.Above j i → g.Shown j := by
  unfold isEffectivelyVisible
  cases hid : g.indexOf? id with
  | none => simp
  | some i =>
    obtain ⟨s, hs, -⟩ := h.owner id i hid
    have hlineage : ∀ j, j ∈ g.lineage g.slots.size i ↔ g.Above j i :=
      fun j => mem_lineage h hg (mem_slots.mpr ⟨s, hs⟩)
    simp [List.all_eq_true, any_visible_eq_true, hlineage]

/-! ## Removing a subtree -/

/-- The lists of children outside a subtree lose at most its top. -/
theorem children_removeNode (h : Aged g stamp bound) (hg : Linked g) (hi : i ∈ g.slots)
    (hj : ¬ g.Above i j) : (g.removeNode i).children j = (g.children j).erase i := by
  have hnodup : (g.children j).Nodup := (hg.increasing j).imp Nat.ne_of_lt
  have hchildren : (g.removeNode i).children j =
      if j ∈ g.subtree g.slots.size i then [] else _ := children_foldl_release h _ j
  rw [hchildren, if_neg (mt (mem_subtree h hg hi).mp hj), hnodup.erase_eq_filter]
  refine List.filter_congr fun k hk => ?_
  rw [Bool.eq_iff_iff, decide_eq_true_eq, bne_iff_ne, mem_subtree h hg hi]
  -- A child that lies in the subtree is its top, for else its parent lay in the subtree too.
  refine not_congr ⟨fun habove => ?_, fun heq => heq ▸ Relation.ReflTransGen.refl⟩
  rcases (Relation.ReflTransGen.cases_tail_iff g.ParentOf i k).mp habove with rfl | ⟨q, hq, hqk⟩
  · rfl
  · obtain rfl : j = q := Option.some.inj
      ((show g.parent? k = some j from (hg.listed j k).mp hk).symm.trans hqk)
    exact absurd hq hj

/-- Removing a subtree takes its nodes and their names out, and leaves the other nodes as they were;
the names are apart, so these keep their own. -/
theorem subtreeRemoved_removeNode (h : Aged g stamp bound) (hg : Linked g) (hapart : g.NamedApart)
    (hi : i ∈ g.slots) : SubtreeRemoved g (g.removeNode i) i := by
  have hsubtree : ∀ j, j ∈ g.subtree g.slots.size i ↔ g.Above i j := fun j => mem_subtree h hg hi
  constructor
  case gone =>
    intro j hj
    rw [nodeAt?_removeNode h, if_pos ((hsubtree j).mpr hj)]
  case kept =>
    intro j hj
    have hout := mt (hsubtree j).mp hj
    rw [nodeAt?_removeNode h, parent?_removeNode h, if_neg hout, if_neg hout]
    exact ⟨rfl, rfl⟩
  case children =>
    intro j hj hparent
    rw [children_removeNode h hg hi hj]
    exact List.erase_of_not_mem (mt (hg.listed j i).mp hparent)
  case lostChild =>
    intro p hp
    -- The parent is no part of the subtree, for there are no cycles.
    refine children_removeNode h hg hi fun habove => ?_
    exact hg.acyclic h i (Relation.TransGen.tail' habove hp)
  case unfound =>
    intro j n hj hn
    rw [indexOf?_removeNode h, if_pos (mem_idsAt.mpr ⟨j, (hsubtree j).mpr hj, n, hn, rfl⟩)]
  case found =>
    intro j n hj hn
    rw [indexOf?_removeNode h, if_neg]
    intro hmem
    -- With names apart, the node of the name that is removed would be this one.
    obtain ⟨k, hk, m, hm, hid⟩ := mem_idsAt.mp hmem
    rw [← hapart k j m n hm hn hid] at hj
    exact hj ((hsubtree k).mp hk)

end SceneGraph

namespace Chronicle

variable {c d : Chronicle}

/-! ## Names that are taken once -/

/-- Some node carries the name. -/
def carries (c : Chronicle) (id : NodeId) : Bool :=
  c.scene.slots.toList.any fun p => p.2.node.id = id

/-- A change adds no node under a name that another node carries. -/
def takesFreshName (c : Chronicle) : Edit → Bool
  | .addRoot node => !c.carries node.id
  | .addNode _ node => !c.carries node.id
  | .removeNode _ => true

/-- None of some changes does. -/
def takesFreshNames (c : Chronicle) : List Edit → Bool
  | [] => true
  | e :: rest => c.takesFreshName e && (c.step? e).all (·.takesFreshNames rest)

theorem ne_of_not_carries {id : NodeId} (h : (!c.carries id) = true) {i : SlotIndex} {n : SceneNode}
    (hn : c.scene.nodeAt? i = some n) : n.id ≠ id := by
  obtain ⟨s, hs, rfl⟩ := Option.map_eq_some_iff.mp hn
  intro heq
  rw [Bool.not_eq_true', carries, List.any_eq_false] at h
  refine h (i, s) (Std.ExtTreeMap.mem_toList_iff_getElem?_eq_some.mpr hs) ?_
  rw [heq]
  exact decide_eq_true rfl

/-- Every node is found under its name. -/
def AllFound (c : Chronicle) : Prop :=
  ∀ i n, c.scene.nodeAt? i = some n → c.scene.indexOf? n.id = some i

theorem AllFound.grow (hfound : c.AllFound) {g : SceneGraph} {parent : Option SlotIndex}
    {node : SceneNode} (hin : SceneGraph.Inserted c.scene g parent node)
    (hfresh : (!c.carries node.id) = true) : (c.grow g).AllFound := by
  intro i n hn
  have hn : g.nodeAt? i = some n := hn
  show g.indexOf? n.id = some i
  rw [hin.nodeAt?] at hn
  rw [hin.indexOf?]
  split at hn
  · next hi =>
    obtain rfl := Option.some.inj hn
    rw [if_pos rfl, hi]
  · rw [if_neg (ne_of_not_carries hfresh hn).symm]
    exact hfound i n hn

theorem AllFound.prune (hc : c.Recorded) (hfound : c.AllFound) (i : SlotIndex) :
    (c.prune i).AllFound := by
  intro j n hn
  have hn : (c.scene.removeNode i).nodeAt? j = some n := hn
  show (c.scene.removeNode i).indexOf? n.id = some j
  rw [SceneGraph.nodeAt?_removeNode hc.aged] at hn
  split at hn
  · cases hn
  · next hj =>
    rw [SceneGraph.indexOf?_removeNode hc.aged, if_neg]
    · exact hfound j n hn
    · intro hmem
      -- A node of the same name would be found under it as well.
      obtain ⟨k, hk, m, hm, hid⟩ := SceneGraph.mem_idsAt.mp hmem
      have hk' := hfound k m hm
      rw [hid, hfound j n hn] at hk'
      exact hj (Option.some.inj hk' ▸ hk)

theorem allFound_of_run {edits : List Edit} (hc : c.Recorded) (hfound : c.AllFound)
    (hfresh : c.takesFreshNames edits) (h : c.run? edits = some d) : d.AllFound := by
  induction edits generalizing c with
  | nil =>
    obtain rfl := Option.some.inj h
    exact hfound
  | cons e rest ih =>
    obtain ⟨c', hfirst, hrest⟩ := Option.bind_eq_some_iff.mp
      (show (c.step? e).bind (fun c' => c'.run? rest) = some d from h)
    rw [takesFreshNames, hfirst, Option.all_some, Bool.and_eq_true] at hfresh
    obtain ⟨hname, hnames⟩ := hfresh
    refine ih (hc.step hfirst) ?_ hnames hrest
    obtain ⟨node, rfl, rfl⟩ | ⟨parent, node, rfl, -, rfl⟩ | ⟨i, rfl, rfl⟩ := step?_cases hfirst
    · exact hfound.grow (SceneGraph.inserted_addRoot hc.aged node) hname
    · exact hfound.grow (SceneGraph.inserted_addNode hc.aged node) hname
    · exact hfound.prune hc i

/-! ## Scenes that come about -/

/-- What is true of every scene that comes about. -/
structure Sound (c : Chronicle) : Prop where
  forest : c.scene.IsForest
  index : ∀ id i, c.scene.indexOf? id = some i → ∃ n, c.scene.nodeAt? i = some n ∧ n.id = id
  climbs : ∀ id i, c.scene.indexOf? id = some i →
    ∀ answer, c.scene.Climbs i answer ↔ answer = c.scene.isEffectivelyVisible id
  visible : ∀ id, c.scene.isEffectivelyVisible id = true ↔
    ∃ i, c.scene.indexOf? id = some i ∧ ∀ j, c.scene.Above j i → c.scene.Shown j
  found : c.scene.NamedApart → ∀ i n, c.scene.nodeAt? i = some n →
    (c.scene.indexOf? n.id = some i ↔ c.removed n.id ≤ c.added i)
  removal : c.scene.NamedApart → ∀ i ∈ c.scene.slots,
    c.scene.SubtreeRemoved (c.scene.removeNode i) i

/-- A scene is a forest whose names lead to nodes, also when names are repeated and slots used
again. With names apart, a node is found just when none of its name was removed since it was added;
so all are found when names were apart at all times. -/
theorem sound_of_run {edits : List Edit} (h : run? {} edits = some c) :
    c.Sound ∧ (takesFreshNames {} edits → c.AllFound) := by
  have hc := recorded_of_run h
  refine ⟨?_, fun hfresh => allFound_of_run recorded_empty (by simp [AllFound,
    SceneGraph.nodeAt?]) hfresh h⟩
  constructor
  case forest => exact SceneGraph.isForest_of_linked hc.aged hc.linked
  case index =>
    intro id i hid
    obtain ⟨s, hs, hname, -⟩ := hc.aged.owner id i hid
    exact ⟨s.node, SceneGraph.nodeAt?_eq hs, hname⟩
  case climbs => exact fun id i hid => SceneGraph.climbs_iff hc.aged hc.linked hid
  case visible => exact SceneGraph.isEffectivelyVisible_iff hc.aged hc.linked
  case found =>
    intro hapart i n hn
    rw [hc.resolves i n hn]
    refine and_iff_left fun j m hm hid => ?_
    rw [hapart j i m n hm hn hid]
  case removal =>
    exact fun hapart i => SceneGraph.subtreeRemoved_removeNode hc.aged hc.linked hapart

/-- A row is removed and another one gets a child, which comes into the freed slot before its
parent's. All names are apart, and every node is found. -/
theorem sound_of_reused_slot : ∃ c : Chronicle,
    run? {} [.addRoot { id := ⟨"f"⟩, type := .frame }, .addNode 0 { id := ⟨"a"⟩, type := .frame },
      .addNode 0 { id := ⟨"b"⟩, type := .frame }, .removeNode 1,
      .addNode 2 { id := ⟨"c"⟩, type := .frame }] = some c ∧
    c.scene.ParentOf 2 1 ∧ c.Sound ∧ c.AllFound := by
  obtain ⟨c, hrun, hparent⟩ : ∃ c : Chronicle,
      run? {} [.addRoot { id := ⟨"f"⟩, type := .frame }, .addNode 0 { id := ⟨"a"⟩, type := .frame },
        .addNode 0 { id := ⟨"b"⟩, type := .frame }, .removeNode 1,
        .addNode 2 { id := ⟨"c"⟩, type := .frame }] = some c ∧ c.scene.parent? 1 = some 2 :=
    ⟨_, rfl, by decide +kernel⟩
  obtain ⟨hsound, hfound⟩ := sound_of_run hrun
  exact ⟨c, hrun, hparent, hsound, hfound (by decide +kernel)⟩

/-- A node is added under the name of a child of another node, and is found under it. Once that
other node is removed it carries the name alone, and is no longer found. -/
theorem unfound_after_namesake : ∃ b c : Chronicle,
    run? {} [.addRoot { id := ⟨"f"⟩, type := .frame }, .addNode 0 { id := ⟨"a"⟩, type := .text },
      .addRoot { id := ⟨"a"⟩, type := .frame }] = some b ∧
    b.scene.indexOf? ⟨"a"⟩ = some 2 ∧ b.step? (.removeNode 0) = some c ∧
    c.scene.NamedApart ∧ c.scene.rootIds = [⟨"a"⟩] ∧
    (c.scene.nodeAt? 2).map (·.id) = some ⟨"a"⟩ ∧ c.scene.indexOf? ⟨"a"⟩ = none := by
  refine ⟨_, _, rfl, ?_, rfl, SceneGraph.namedApart_of_nodup ?_, ?_, ?_, ?_⟩
  all_goals decide +kernel

end Chronicle

end SceneCompiler
