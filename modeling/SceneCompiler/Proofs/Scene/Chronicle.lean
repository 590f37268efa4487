import Mathlib
import SceneCompiler.Proofs.Scene.Links
/-!
# Chronicles

A chronicle is a scene with the times of what happened to it: when the node of each slot was added,
and when a node of each name was last removed. Slots are used again and names may be repeated, so
neither tells what came first.

* `recorded_of_run`: what is true of every chronicle.
* `Recorded.resolves`: a node is found under its name if it is the youngest of that name, and none
  of that name was removed since it was added.
-/

namespace SceneCompiler

/-- A change of a scene. -/
inductive Edit where
  | addRoot (node : SceneNode)
  | addNode (parent : SlotIndex) (node : SceneNode)
  | removeNode (i : SlotIndex)

/-- A scene with the times of the changes that it came about by. -/
structure Chronicle where
  scene : SceneGraph := {}
  /-- The count of changes so far, which is the time of the next one. -/
  time : Nat := 0
  /-- When the node of a slot was added. -/
  added : SlotIndex → Nat := fun _ => 0
  /-- The time since which no node of a name has been removed. -/
  removed : NodeId → Nat := fun _ => 0

namespace Chronicle

/-! ## Changes -/

/-- A node was added in the next slot. -/
def grow (c : Chronicle) (scene : SceneGraph) : Chronicle where
  scene
  time := c.time + 1
  added := Function.update c.added c.scene.nextIndex c.time
  removed := c.removed

/-- Removing a subtree takes a node of a name away. -/
def loses (c : Chronicle) (i : SlotIndex) (id : NodeId) : Bool :=
  c.scene.slots.toList.any fun p =>
    p.2.node.id = id && !(c.scene.removeNode i).slots.contains p.1

/-- A subtree was removed. -/
def prune (c : Chronicle) (i : SlotIndex) : Chronicle where
  scene := c.scene.removeNode i
  time := c.time + 1
  added := c.added
  removed id := if c.loses i id then c.time + 1 else c.removed id

/-- A change; nodes are added under filled slots only. -/
def step? (c : Chronicle) : Edit → Option Chronicle
  | .addRoot node => some (c.grow (c.scene.addRoot node))
  | .addNode parent node =>
    if parent ∈ c.scene.slots then some (c.grow (c.scene.addNode parent node)) else none
  | .removeNode i => some (c.prune i)

def run? (c : Chronicle) (edits : List Edit) : Option Chronicle :=
  edits.foldlM step? c

variable {c d : Chronicle} {i j : SlotIndex} {id : NodeId}

/-- A change adds a node in the next slot, at top level or under a filled slot, or it removes a
subtree. -/
theorem step?_cases {e : Edit} (h : c.step? e = some d) :
    (∃ node, e = .addRoot node ∧ d = c.grow (c.scene.addRoot node)) ∨
    (∃ parent node, e = .addNode parent node ∧ parent ∈ c.scene.slots
      ∧ d = c.grow (c.scene.addNode parent node)) ∨
    (∃ i, e = .removeNode i ∧ d = c.prune i) := by
  cases e with
  | addRoot node => exact Or.inl ⟨node, rfl, (Option.some.inj h).symm⟩
  | addNode parent node =>
    simp only [step?] at h
    split at h
    · next hfilled => exact Or.inr (Or.inl ⟨parent, node, rfl, hfilled, (Option.some.inj h).symm⟩)
    · cases h
  | removeNode i => exact Or.inr (Or.inr ⟨i, rfl, (Option.some.inj h).symm⟩)

/-! ## What chronicles record -/

/-- A node resolves by its name exactly if it is the youngest of that name, and no node of that name
was removed since it was added. -/
def Resolves (c : Chronicle) : Prop :=
  ∀ (i : SlotIndex) (n : SceneNode), c.scene.nodeAt? i = some n →
    (c.scene.indexOf? n.id = some i ↔ c.removed n.id ≤ c.added i
      ∧ ∀ (j : SlotIndex) (m : SceneNode), c.scene.nodeAt? j = some m → m.id = n.id →
        c.added j ≤ c.added i)

/-- What is true of every chronicle. -/
structure Recorded (c : Chronicle) : Prop where
  aged : c.scene.Aged c.added c.time
  linked : c.scene.Linked
  /-- No two nodes were added at one time. -/
  apart : ∀ i j, i ∈ c.scene.slots → j ∈ c.scene.slots → c.added i = c.added j → i = j
  past : ∀ id, c.removed id ≤ c.time
  resolves : c.Resolves
  rootsInOrder : c.scene.roots.Pairwise fun i j => c.added i < c.added j

theorem recorded_empty : Recorded {} where
  aged := SceneGraph.Aged.empty
  linked := SceneGraph.linked_empty
  apart := by simp
  past := by simp
  resolves := by simp [Resolves, SceneGraph.nodeAt?]
  rootsInOrder := List.Pairwise.nil

theorem Recorded.lt_of_mem (hc : c.Recorded) (hi : i ∈ c.scene.slots) : c.added i < c.time := by
  obtain ⟨s, hs⟩ := SceneGraph.mem_slots.mp hi
  exact hc.aged.below i s hs

theorem Recorded.nextIndex_not_mem (hc : c.Recorded) : c.scene.nextIndex ∉ c.scene.slots := by
  rw [SceneGraph.mem_slots, hc.aged.nextIndex_unfilled]
  simp

theorem mem_slots_of_nodeAt? {g : SceneGraph} {n : SceneNode} (h : g.nodeAt? i = some n) :
    i ∈ g.slots := by
  obtain ⟨s, hs, -⟩ := Option.map_eq_some_iff.mp h
  exact SceneGraph.mem_slots.mpr ⟨s, hs⟩

/-! ### Adding -/

section Adding

variable {g : SceneGraph} {parent : Option SlotIndex} {node : SceneNode}

/-- A slot that is not the next one keeps its time. -/
theorem added_grow_of_ne (h : c.scene.nextIndex ≠ i) : (c.grow g).added i = c.added i :=
  Function.update_of_ne h.symm _ _

theorem added_grow_self : (c.grow g).added c.scene.nextIndex = c.time :=
  Function.update_self _ _ _

theorem Recorded.resolves_grow (hc : c.Recorded)
    (hin : SceneGraph.Inserted c.scene g parent node) : (c.grow g).Resolves := by
  intro i n hn
  have hn : g.nodeAt? i = some n := hn
  show g.indexOf? n.id = some i ↔ c.removed n.id ≤ _ ∧ ∀ j m, g.nodeAt? j = some m → _
  rw [hin.indexOf?]
  rw [hin.nodeAt?] at hn
  by_cases hi : c.scene.nextIndex = i
  · -- The new node is the youngest of all.
    subst hi
    rw [if_pos rfl] at hn
    obtain rfl := Option.some.inj hn
    rw [if_pos rfl, added_grow_self]
    refine iff_of_true rfl ⟨hc.past _, fun j m hm _ => ?_⟩
    rw [hin.nodeAt?] at hm
    by_cases hj : c.scene.nextIndex = j
    · rw [← hj, added_grow_self]
    · rw [if_neg hj] at hm
      rw [added_grow_of_ne hj]
      exact (hc.lt_of_mem (mem_slots_of_nodeAt? hm)).le
  · rw [if_neg hi] at hn
    have hold := hc.resolves i n hn
    have hlt := hc.lt_of_mem (mem_slots_of_nodeAt? hn)
    rw [added_grow_of_ne hi]
    by_cases hid : node.id = n.id
    · -- The new node has taken the name over, and it is younger.
      rw [if_pos hid]
      refine iff_of_false (fun heq => hi (Option.some.inj heq)) fun ⟨_, hyoungest⟩ => ?_
      have hle := hyoungest c.scene.nextIndex node (by rw [hin.nodeAt?, if_pos rfl]) hid
      rw [added_grow_self] at hle
      omega
    · rw [if_neg hid, hold]
      refine and_congr_right fun _ => forall₂_congr fun j m => ?_
      rw [hin.nodeAt?]
      by_cases hj : c.scene.nextIndex = j
      · rw [if_pos hj]
        constructor
        · intro _ hm hmid
          exact absurd (Option.some.inj hm ▸ hmid) hid
        · intro _ hm _
          exact absurd (hj ▸ mem_slots_of_nodeAt? hm) hc.nextIndex_not_mem
      · rw [if_neg hj, added_grow_of_ne hj]

theorem Recorded.grow (hc : c.Recorded) (hin : SceneGraph.Inserted c.scene g parent node)
    (hparent : ∀ p, parent = some p → p ∈ c.scene.slots)
    (hroots : g.roots =
      if parent = none then c.scene.roots ++ [c.scene.nextIndex] else c.scene.roots) :
    (c.grow g).Recorded where
  aged := hin.aged hc.aged
  linked := hc.linked.inserted hc.aged hin hparent hroots
  apart := by
    intro i j hi hj heq
    have hi := hin.mem_slots.mp hi
    have hj := hin.mem_slots.mp hj
    by_cases hni : c.scene.nextIndex = i <;> by_cases hnj : c.scene.nextIndex = j
    · exact hni.symm.trans hnj
    · -- All other nodes were added before.
      rw [← hni, added_grow_self, added_grow_of_ne hnj] at heq
      have := hc.lt_of_mem (hj.resolve_left hnj)
      omega
    · rw [← hnj, added_grow_self, added_grow_of_ne hni] at heq
      have := hc.lt_of_mem (hi.resolve_left hni)
      omega
    · rw [added_grow_of_ne hni, added_grow_of_ne hnj] at heq
      exact hc.apart i j (hi.resolve_left hni) (hj.resolve_left hnj) heq
  past id := (hc.past id).trans (Nat.le_succ _)
  resolves := hc.resolves_grow hin
  rootsInOrder := by
    have hfilled : ∀ i ∈ c.scene.roots, i ∈ c.scene.slots :=
      fun i hi => ((hc.linked.roots i).mp hi).1
    have hold : c.scene.roots.Pairwise fun i j => (c.grow g).added i < (c.grow g).added j := by
      refine hc.rootsInOrder.imp_of_mem fun hi hj hlt => ?_
      rw [added_grow_of_ne fun heq => hc.nextIndex_not_mem (heq ▸ hfilled _ hi),
        added_grow_of_ne fun heq => hc.nextIndex_not_mem (heq ▸ hfilled _ hj)]
      exact hlt
    show g.roots.Pairwise _
    rw [hroots]
    split
    · refine List.pairwise_append.mpr ⟨hold, List.pairwise_singleton _ _, fun i hi j hj => ?_⟩
      rw [List.mem_singleton.mp hj, added_grow_self,
        added_grow_of_ne fun heq => hc.nextIndex_not_mem (heq ▸ hfilled i hi)]
      exact hc.lt_of_mem (hfilled i hi)
    · exact hold

end Adding

/-! ### Removing -/

/-- The names that a removal takes away are those of the slots that it frees. -/
theorem Recorded.loses_iff (hc : c.Recorded) (i : SlotIndex) (id : NodeId) :
    c.loses i id = true ↔ id ∈ c.scene.idsAt (c.scene.subtree c.scene.slots.size i) := by
  have hleft : ∀ j, j ∈ (c.scene.removeNode i).slots ↔ _ :=
    fun _ => SceneGraph.mem_slots_removeNode hc.aged i
  rw [SceneGraph.mem_idsAt, loses, List.any_eq_true]
  constructor
  · rintro ⟨⟨j, s⟩, hmem, hlost⟩
    have hs := Std.ExtTreeMap.mem_toList_iff_getElem?_eq_some.mp hmem
    rw [Bool.and_eq_true, decide_eq_true_eq, Bool.not_eq_true'] at hlost
    refine ⟨j, ?_, s.node, congrArg (Option.map Slot.node) hs, hlost.1⟩
    by_contra hj
    have hkept := (hleft j).mpr ⟨hj, SceneGraph.mem_slots.mpr ⟨s, hs⟩⟩
    rw [Std.ExtTreeMap.mem_iff_contains, hlost.2] at hkept
    cases hkept
  · rintro ⟨j, hj, n, hn, hid⟩
    obtain ⟨s, hs, rfl⟩ := Option.map_eq_some_iff.mp hn
    refine ⟨(j, s), Std.ExtTreeMap.mem_toList_iff_getElem?_eq_some.mpr hs, ?_⟩
    rw [Bool.and_eq_true, decide_eq_true_eq, Bool.not_eq_true', Bool.eq_false_iff]
    exact ⟨hid, fun hmem => ((hleft j).mp hmem).1 hj⟩

theorem Recorded.resolves_prune (hc : c.Recorded) (i : SlotIndex) : (c.prune i).Resolves := by
  have hnode := SceneGraph.nodeAt?_removeNode hc.aged i
  intro j n hn
  have hn : (c.scene.removeNode i).nodeAt? j = some n := hn
  show (c.scene.removeNode i).indexOf? n.id = some j ↔
    (if c.loses i n.id then c.time + 1 else c.removed n.id) ≤ c.added j
      ∧ ∀ k m, (c.scene.removeNode i).nodeAt? k = some m → m.id = n.id → c.added k ≤ c.added j
  rw [hnode] at hn
  split at hn
  · cases hn
  · have hold := hc.resolves j n hn
    rw [SceneGraph.indexOf?_removeNode hc.aged]
    by_cases hlost : c.loses i n.id
    · -- The name was removed just now, after all nodes that are left were added.
      rw [if_pos ((hc.loses_iff i n.id).mp hlost), if_pos hlost]
      have hlt := hc.lt_of_mem (mem_slots_of_nodeAt? hn)
      exact iff_of_false nofun fun h => by omega
    · have hkept := mt (hc.loses_iff i n.id).mpr hlost
      rw [if_neg hkept, if_neg hlost, hold]
      refine and_congr_right fun _ => forall₂_congr fun k m => ?_
      rw [hnode]
      split
      · next hk =>
        -- No node of the name was removed.
        refine iff_of_true (fun hm hid => absurd ?_ hkept) nofun
        exact SceneGraph.mem_idsAt.mpr ⟨k, hk, m, hm, hid⟩
      · exact Iff.rfl

theorem Recorded.prune (hc : c.Recorded) (i : SlotIndex) : (c.prune i).Recorded where
  aged := by
    have haged := hc.aged.removeNode i
    exact { haged with below := fun j s hs => (haged.below j s hs).trans (Nat.lt_succ_self _) }
  linked := hc.linked.removeNode hc.aged i
  apart := by
    intro j k hj hk heq
    have hj := ((SceneGraph.mem_slots_removeNode hc.aged i).mp hj).2
    have hk := ((SceneGraph.mem_slots_removeNode hc.aged i).mp hk).2
    exact hc.apart j k hj hk heq
  past := by
    intro id
    show (if c.loses i id then c.time + 1 else c.removed id) ≤ c.time + 1
    have := hc.past id
    split <;> omega
  resolves := hc.resolves_prune i
  rootsInOrder := by
    have hroots : (c.scene.removeNode i).roots = _ :=
      SceneGraph.roots_foldl_release hc.aged (fun k hk => ((hc.linked.roots k).mp hk).1)
        hc.linked.rootsOnce
    show (c.scene.removeNode i).roots.Pairwise _
    rw [hroots]
    exact hc.rootsInOrder.filter _

/-! ### Runs -/

theorem Recorded.step (hc : c.Recorded) {e : Edit} (h : c.step? e = some d) : d.Recorded := by
  obtain ⟨node, -, rfl⟩ | ⟨parent, node, -, hfilled, rfl⟩ | ⟨i, -, rfl⟩ := step?_cases h
  · exact hc.grow (SceneGraph.inserted_addRoot hc.aged node) nofun rfl
  · refine hc.grow (SceneGraph.inserted_addNode hc.aged node) (fun p hp => ?_) rfl
    obtain rfl := Option.some.inj hp
    exact hfilled
  · exact hc.prune i

/-- What every change keeps holds after all changes. -/
theorem run?_induction {P : Chronicle → Prop} {edits : List Edit} (h : c.run? edits = some d)
    (hc : P c) (hstep : ∀ c d : Chronicle, ∀ e ∈ edits, P c → c.step? e = some d → P d) : P d := by
  induction edits generalizing c with
  | nil =>
    obtain rfl := Option.some.inj h
    exact hc
  | cons e rest ih =>
    obtain ⟨c', hfirst, hrest⟩ := Option.bind_eq_some_iff.mp
      (show (c.step? e).bind (fun c' => c'.run? rest) = some d from h)
    exact ih hrest (hstep c c' e List.mem_cons_self hc hfirst)
      fun c d e he => hstep c d e (List.mem_cons_of_mem _ he)

theorem recorded_of_run {edits : List Edit} (h : run? {} edits = some c) : c.Recorded :=
  run?_induction h recorded_empty fun _ _ _ _ hc => hc.step

end Chronicle

end SceneCompiler
