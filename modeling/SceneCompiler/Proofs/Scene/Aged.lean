import Mathlib
import SceneCompiler.Scene.Graph
/-!
# Stamps of nodes

Slots are used again, so the number of a slot tells nothing about the age of its node. Every node
therefore gets a stamp when it is added, which is larger than all stamps before; children have
larger stamps than their parents.

* `Inserted.aged`: adding a node.
* `Aged.removeNode`: removing a subtree.
-/

namespace SceneCompiler.SceneGraph

/-! ## Slots after a step -/

theorem slots_fill (g : SceneGraph) (parent : Option SlotIndex) (node : SceneNode) (i : SlotIndex) :
    (g.fill parent node).slots[i]? =
      if g.nextIndex = i then some ⟨node, parent, []⟩ else g.slots[i]? := by
  unfold fill
  rw [Std.ExtTreeMap.getElem?_insert]
  simp only [Std.compare_eq_iff_eq]

theorem slots_link (g : SceneGraph) (parent child i : SlotIndex) :
    (g.link parent child).slots[i]? =
      if parent = i then
        g.slots[parent]?.map fun s => { s with children := insertIndex child s.children }
      else g.slots[i]? := by
  unfold link
  rw [Std.ExtTreeMap.getElem?_modify]
  simp only [Std.compare_eq_iff_eq]

theorem nextIndex_link (g : SceneGraph) (parent child : SlotIndex) :
    (g.link parent child).nextIndex = g.nextIndex := by
  unfold nextIndex link
  simp only [Std.ExtTreeMap.size_modify]

theorem mem_insertIndex {i j : SlotIndex} (l : List SlotIndex) :
    i ∈ insertIndex j l ↔ i = j ∨ i ∈ l := by
  induction l with
  | nil => simp [insertIndex]
  | cons k rest ih =>
    unfold insertIndex
    split
    · simp
    · simp only [List.mem_cons, ih]
      tauto

theorem nodup_insertIndex {j : SlotIndex} {l : List SlotIndex} (hl : l.Nodup) (hj : j ∉ l) :
    (insertIndex j l).Nodup := by
  induction l with
  | nil => simp [insertIndex]
  | cons k rest ih =>
    obtain ⟨hk, hrest⟩ := List.nodup_cons.mp hl
    unfold insertIndex
    split
    · exact List.nodup_cons.mpr ⟨hj, hl⟩
    · refine List.nodup_cons.mpr ⟨?_, ih hrest fun h => hj (List.mem_cons_of_mem _ h)⟩
      rw [mem_insertIndex]
      rintro (rfl | h)
      · exact hj List.mem_cons_self
      · exact hk h

/-! ## Stamps -/

/-- Every filled slot has a stamp below the bound. A child has a larger stamp than its parent, and
the owner of a name has the largest stamp of all nodes of that name. The other fields say that slots
are numbered without gaps. -/
structure Aged (g : SceneGraph) (stamp : SlotIndex → Nat) (bound : Nat) : Prop where
  below : ∀ (i : SlotIndex) (s : Slot), g.slots[i]? = some s → stamp i < bound
  child : ∀ (i : SlotIndex) (s : Slot), g.slots[i]? = some s → ∀ j ∈ s.children,
    ∃ t : Slot, g.slots[j]? = some t ∧ t.parent = some i ∧ stamp i < stamp j
  nodup : ∀ (i : SlotIndex) (s : Slot), g.slots[i]? = some s → s.children.Nodup
  owner : ∀ (id : NodeId) (i : SlotIndex), g.owners[id]? = some i →
    ∃ s : Slot, g.slots[i]? = some s ∧ s.node.id = id
      ∧ ∀ (j : SlotIndex) (t : Slot), g.slots[j]? = some t → t.node.id = id → stamp j ≤ stamp i
  unfilled : ∀ i ∈ g.free, g.slots[i]? = none
  freedOnce : g.free.Nodup
  numberedFree : ∀ i ∈ g.free, i < g.slots.size + g.free.length
  numbered : ∀ (i : SlotIndex) (s : Slot), g.slots[i]? = some s → i < g.slots.size + g.free.length

namespace Aged

variable {g : SceneGraph} {stamp : SlotIndex → Nat} {bound : Nat}

theorem empty : Aged {} (fun _ => 0) 0 where
  below := by simp
  child := by simp
  nodup := by simp
  owner := by simp
  unfilled := by simp
  freedOnce := by simp
  numberedFree := by simp
  numbered := by simp

theorem nextIndex_unfilled (h : Aged g stamp bound) : g.slots[g.nextIndex]? = none := by
  unfold nextIndex
  split
  · next i rest hfree => exact h.unfilled i (by simp [hfree])
  · next hfree =>
    cases hslot : g.slots[g.slots.size]? with
    | none => rfl
    | some s =>
      have hlt := h.numbered g.slots.size s hslot
      rw [hfree, List.length_nil] at hlt
      exact absurd hlt (Nat.lt_irrefl _)

/-- Filling the next slot makes room for it in the numbering. -/
theorem size_fill (h : Aged g stamp bound) (parent : Option SlotIndex) (node : SceneNode) :
    (g.fill parent node).slots.size = g.slots.size + 1 := by
  have hnext : ¬ g.nextIndex ∈ g.slots := by
    rw [Std.ExtTreeMap.mem_iff_isSome_getElem?, h.nextIndex_unfilled]
    simp
  unfold fill
  rw [Std.ExtTreeMap.size_insert]
  simp [hnext]

theorem nextIndex_lt (h : Aged g stamp bound) :
    g.nextIndex < g.slots.size + 1 + g.free.tail.length := by
  unfold nextIndex
  split
  · next i rest hfree =>
    have hlt := h.numberedFree i (by simp [hfree])
    have hlength : g.slots.size + g.free.length = g.slots.size + 1 + g.free.tail.length := by
      rw [hfree, List.length_cons, List.tail_cons]
      omega
    rwa [hlength] at hlt
  · exact Nat.lt_of_lt_of_le (Nat.lt_succ_self _) (Nat.le_add_right _ _)

theorem total_le (g : SceneGraph) :
    g.slots.size + g.free.length ≤ g.slots.size + 1 + g.free.tail.length := by
  rw [List.length_tail]
  omega

end Aged

/-! ## Adding -/

/-- `g'` is `g` with a new node in the next slot, which its parent lists. -/
structure Inserted (g g' : SceneGraph) (parent : Option SlotIndex) (node : SceneNode) : Prop where
  slots : ∀ i : SlotIndex, g'.slots[i]? =
    if g.nextIndex = i then some ⟨node, parent, []⟩
    else if parent = some i then
      g.slots[i]?.map fun s => { s with children := insertIndex g.nextIndex s.children }
    else g.slots[i]?
  size : g'.slots.size = g.slots.size + 1
  free : g'.free = g.free.tail
  owners : g'.owners = g.owners.insert node.id g.nextIndex

namespace Inserted

variable {g g' : SceneGraph} {stamp : SlotIndex → Nat} {bound : Nat} {parent : Option SlotIndex}
  {node : SceneNode}

/-- A filled slot is the new one, or it was filled before with the same node and at most the new
slot among its children. -/
theorem old (hin : Inserted g g' parent node) {i : SlotIndex} {s' : Slot}
    (hs' : g'.slots[i]? = some s') :
    (i = g.nextIndex ∧ s' = ⟨node, parent, []⟩)
      ∨ (i ≠ g.nextIndex ∧ ∃ s, g.slots[i]? = some s ∧ s'.node = s.node
        ∧ (s'.children = s.children
          ∨ parent = some i ∧ s'.children = insertIndex g.nextIndex s.children)) := by
  rw [hin.slots] at hs'
  split at hs'
  · next heq => exact Or.inl ⟨heq.symm, (Option.some.inj hs').symm⟩
  · next hne =>
    right
    refine ⟨fun heq => hne heq.symm, ?_⟩
    split at hs'
    · next hp =>
      obtain ⟨s, hs, rfl⟩ := Option.map_eq_some_iff.mp hs'
      exact ⟨s, hs, rfl, Or.inr ⟨hp, rfl⟩⟩
    · exact ⟨s', hs', rfl, Or.inl rfl⟩

theorem ne_nextIndex (h : Aged g stamp bound) {i : SlotIndex} {s : Slot}
    (hs : g.slots[i]? = some s) : i ≠ g.nextIndex := by
  rintro rfl
  rw [h.nextIndex_unfilled] at hs
  cases hs

/-- A slot that was filled before still has its node and its parent. -/
theorem kept (hin : Inserted g g' parent node) (h : Aged g stamp bound) {i : SlotIndex} {s : Slot}
    (hs : g.slots[i]? = some s) :
    ∃ s', g'.slots[i]? = some s' ∧ s'.node = s.node ∧ s'.parent = s.parent := by
  rw [hin.slots, if_neg (ne_nextIndex h hs).symm]
  split
  · exact ⟨{ s with children := insertIndex g.nextIndex s.children }, by rw [hs]; rfl, rfl, rfl⟩
  · exact ⟨s, hs, rfl, rfl⟩

theorem stamp_old (h : Aged g stamp bound) {i : SlotIndex} {s : Slot} (hs : g.slots[i]? = some s) :
    Function.update stamp g.nextIndex bound i = stamp i :=
  Function.update_of_ne (ne_nextIndex h hs) _ _

/-- Children keep larger stamps than their parents; the new node has the largest one. -/
theorem child (hin : Inserted g g' parent node) (h : Aged g stamp bound) {i j : SlotIndex}
    {s' : Slot} (hs' : g'.slots[i]? = some s') (hj : j ∈ s'.children) :
    ∃ t, g'.slots[j]? = some t ∧ t.parent = some i
      ∧ Function.update stamp g.nextIndex bound i < Function.update stamp g.nextIndex bound j := by
  rcases hin.old hs' with ⟨rfl, rfl⟩ | ⟨-, s, hs, -, hchildren⟩
  · cases hj
  · -- A child from before keeps its stamp, and so does its parent.
    have hbefore : j ∈ s.children → ∃ t, g'.slots[j]? = some t ∧ t.parent = some i
        ∧ Function.update stamp g.nextIndex bound i
          < Function.update stamp g.nextIndex bound j := by
      intro hj
      obtain ⟨t, ht, hparent, hlt⟩ := h.child i s hs j hj
      obtain ⟨t', ht', -, hparent'⟩ := hin.kept h ht
      rw [stamp_old h hs, stamp_old h ht]
      exact ⟨t', ht', hparent'.trans hparent, hlt⟩
    rcases hchildren with heq | ⟨hp, heq⟩
    · exact hbefore (heq ▸ hj)
    · rw [heq, mem_insertIndex] at hj
      rcases hj with rfl | hj
      · refine ⟨⟨node, parent, []⟩, by rw [hin.slots, if_pos rfl], hp, ?_⟩
        rw [Function.update_self, stamp_old h hs]
        exact h.below i s hs
      · exact hbefore hj

theorem nodup (hin : Inserted g g' parent node) (h : Aged g stamp bound) {i : SlotIndex} {s' : Slot}
    (hs' : g'.slots[i]? = some s') : s'.children.Nodup := by
  rcases hin.old hs' with ⟨rfl, rfl⟩ | ⟨-, s, hs, -, heq | ⟨-, heq⟩⟩
  · exact List.nodup_nil
  · exact heq ▸ h.nodup i s hs
  · rw [heq]
    -- The new slot was not filled before, so it was no child.
    refine nodup_insertIndex (h.nodup i s hs) fun hmem => ?_
    obtain ⟨t, ht, -, -⟩ := h.child i s hs _ hmem
    exact ne_nextIndex h ht rfl

/-- The new node owns its name, and the other names keep their owners. -/
theorem owner (hin : Inserted g g' parent node) (h : Aged g stamp bound) {id : NodeId}
    {i : SlotIndex} (hi : g'.owners[id]? = some i) :
    ∃ s : Slot, g'.slots[i]? = some s ∧ s.node.id = id
      ∧ ∀ (j : SlotIndex) (t : Slot), g'.slots[j]? = some t → t.node.id = id →
        Function.update stamp g.nextIndex bound j ≤ Function.update stamp g.nextIndex bound i := by
  rw [hin.owners, Std.ExtTreeMap.getElem?_insert] at hi
  split at hi
  · next hid =>
    obtain rfl : g.nextIndex = i := Option.some.inj hi
    refine ⟨⟨node, parent, []⟩, by rw [hin.slots, if_pos rfl], Std.compare_eq_iff_eq.mp hid, ?_⟩
    intro j t' ht' _
    rw [Function.update_self]
    rcases hin.old ht' with ⟨rfl, -⟩ | ⟨-, t, ht, -, -⟩
    · rw [Function.update_self]
    · rw [stamp_old h ht]
      exact (h.below j t ht).le
  · next hid =>
    -- The new node has another name, so it is no rival of this owner.
    obtain ⟨s, hs, hsid, hmax⟩ := h.owner id i hi
    obtain ⟨s', hs', hnode, -⟩ := hin.kept h hs
    refine ⟨s', hs', hnode ▸ hsid, ?_⟩
    intro j t' ht' htid
    rcases hin.old ht' with ⟨rfl, rfl⟩ | ⟨-, t, ht, htnode, -⟩
    · exact absurd (Std.compare_eq_iff_eq.mpr htid) hid
    · rw [stamp_old h hs, stamp_old h ht]
      exact hmax j t ht (htnode ▸ htid)

/-- The slots that stay free are still unfilled. -/
theorem unfilled (hin : Inserted g g' parent node) (h : Aged g stamp bound) {i : SlotIndex}
    (hi : i ∈ g'.free) : g'.slots[i]? = none := by
  rw [hin.free] at hi
  have hne : g.nextIndex ≠ i := by
    unfold nextIndex
    cases hlist : g.free with
    | nil => simp [hlist] at hi
    | cons first rest =>
      have hnodup := h.freedOnce
      rw [hlist] at hi hnodup
      rintro rfl
      exact (List.nodup_cons.mp hnodup).1 hi
  rw [hin.slots, if_neg hne, h.unfilled i (List.mem_of_mem_tail hi)]
  split <;> rfl

/-- A node that is added gets the bound as its stamp. -/
theorem aged (hin : Inserted g g' parent node) (h : Aged g stamp bound) :
    Aged g' (Function.update stamp g.nextIndex bound) (bound + 1) where
  below := by
    intro i s' hs'
    rcases hin.old hs' with ⟨rfl, -⟩ | ⟨-, s, hs, -, -⟩
    · rw [Function.update_self]
      exact Nat.lt_succ_self _
    · rw [stamp_old h hs]
      exact Nat.lt_succ_of_lt (h.below i s hs)
  child _ _ hs' _ hj := hin.child h hs' hj
  nodup _ _ hs' := hin.nodup h hs'
  owner _ _ hi := hin.owner h hi
  unfilled _ hi := hin.unfilled h hi
  freedOnce := by
    rw [hin.free]
    exact h.freedOnce.tail
  numberedFree := by
    intro i hi
    rw [hin.free] at hi
    rw [hin.size, hin.free]
    exact Nat.lt_of_lt_of_le (h.numberedFree i (List.mem_of_mem_tail hi)) (Aged.total_le g)
  numbered := by
    intro i s' hs'
    rw [hin.size, hin.free]
    rcases hin.old hs' with ⟨rfl, -⟩ | ⟨-, s, hs, -, -⟩
    · exact h.nextIndex_lt
    · exact Nat.lt_of_lt_of_le (h.numbered i s hs) (Aged.total_le g)

end Inserted

/-- A top-level node comes into the next slot. -/
theorem inserted_addRoot {g : SceneGraph} {stamp : SlotIndex → Nat} {bound : Nat}
    (h : Aged g stamp bound) (node : SceneNode) : Inserted g (g.addRoot node) none node where
  slots := by
    intro i
    rw [show (g.addRoot node).slots = (g.fill none node).slots from rfl, slots_fill]
    simp
  size := h.size_fill none node
  free := rfl
  owners := rfl

/-- A node under a filled slot comes into the next slot, and its parent lists it. -/
theorem inserted_addNode {g : SceneGraph} {stamp : SlotIndex → Nat} {bound : Nat}
    (h : Aged g stamp bound) {parent : SlotIndex} (node : SceneNode) :
    Inserted g (g.addNode parent node) (some parent) node where
  slots := by
    intro i
    unfold addNode
    rw [slots_fill, nextIndex_link]
    split
    · rfl
    · rw [slots_link]
      by_cases hp : parent = i
      · simp [hp]
      · simp [hp]
  size := by
    have hnext : ¬ g.nextIndex ∈ (g.link parent g.nextIndex).slots := by
      rw [Std.ExtTreeMap.mem_iff_isSome_getElem?, slots_link]
      split
      · next hp => simp [hp, h.nextIndex_unfilled]
      · simp [h.nextIndex_unfilled]
    have hsize : (g.link parent g.nextIndex).slots.size = g.slots.size := by
      unfold link
      exact Std.ExtTreeMap.size_modify
    unfold addNode fill
    rw [Std.ExtTreeMap.size_insert, nextIndex_link, hsize]
    simp [hnext]
  free := rfl
  owners := by
    unfold addNode fill
    rw [nextIndex_link]
    rfl

/-! ## Removing -/

namespace Aged

variable {g : SceneGraph} {stamp : SlotIndex → Nat} {bound : Nat}

/-- The slots after one was freed. Its parent no longer lists it. -/
theorem slots_release {i : SlotIndex} {s : Slot} (hs : g.slots[i]? = some s) (j : SlotIndex) :
    (g.release i).slots[j]? =
      if i = j then none
      else if s.parent = some j then
        g.slots[j]?.map fun t => { t with children := t.children.erase i }
      else g.slots[j]? := by
  unfold SceneGraph.release
  rw [hs]
  simp only [Std.ExtTreeMap.getElem?_erase, Std.compare_eq_iff_eq]
  split
  · rfl
  · cases s.parent with
    | none => rfl
    | some p =>
      simp only [Std.ExtTreeMap.getElem?_modify, Std.compare_eq_iff_eq, Option.some.injEq]
      split
      · next hp => rw [hp]
      · rfl

/-- A slot that is still filled has its node and its parent, and lost at most the freed slot. -/
theorem old_release {i : SlotIndex} {s : Slot} (hs : g.slots[i]? = some s) {j : SlotIndex}
    {t' : Slot} (ht' : (g.release i).slots[j]? = some t') :
    i ≠ j ∧ ∃ t, g.slots[j]? = some t ∧ t'.node = t.node ∧ t'.parent = t.parent
      ∧ (s.parent ≠ some j ∧ t'.children = t.children
        ∨ s.parent = some j ∧ t'.children = t.children.erase i) := by
  rw [slots_release hs] at ht'
  split at ht'
  · cases ht'
  · next hne =>
    refine ⟨hne, ?_⟩
    split at ht'
    · next hp =>
      obtain ⟨t, ht, rfl⟩ := Option.map_eq_some_iff.mp ht'
      exact ⟨t, ht, rfl, rfl, Or.inr ⟨hp, rfl⟩⟩
    · next hp => exact ⟨t', ht', rfl, rfl, Or.inl ⟨hp, rfl⟩⟩

/-- Every other slot stays filled, with its node and its parent. -/
theorem kept_release {i : SlotIndex} {s : Slot} (hs : g.slots[i]? = some s) {j : SlotIndex}
    {t : Slot} (hne : i ≠ j) (ht : g.slots[j]? = some t) :
    ∃ t', (g.release i).slots[j]? = some t' ∧ t'.node = t.node ∧ t'.parent = t.parent := by
  rw [slots_release hs, if_neg hne]
  split
  · exact ⟨{ t with children := t.children.erase i }, by rw [ht]; rfl, rfl, rfl⟩
  · exact ⟨t, ht, rfl, rfl⟩

/-- The freed slot is no child of a slot that is left. -/
theorem not_mem_children_release (h : Aged g stamp bound) {i : SlotIndex} {s : Slot}
    (hs : g.slots[i]? = some s) {j : SlotIndex} {t' : Slot}
    (ht' : (g.release i).slots[j]? = some t') {k : SlotIndex} (hk : k ∈ t'.children) :
    i ≠ k ∧ ∃ t, g.slots[j]? = some t ∧ k ∈ t.children := by
  obtain ⟨-, t, ht, -, -, ⟨hp, hchildren⟩ | ⟨hp, hchildren⟩⟩ := old_release hs ht'
  · rw [hchildren] at hk
    refine ⟨?_, t, ht, hk⟩
    rintro rfl
    obtain ⟨s', hs', hparent, -⟩ := h.child j t ht _ hk
    rw [hs] at hs'
    exact hp ((Option.some.inj hs') ▸ hparent)
  · rw [hchildren, (h.nodup j t ht).mem_erase_iff] at hk
    exact ⟨hk.1.symm, t, ht, hk.2⟩

theorem total_release {i : SlotIndex} {s : Slot} (hs : g.slots[i]? = some s) :
    (g.release i).slots.size + (g.release i).free.length = g.slots.size + g.free.length := by
  have hmem : g.slots.contains i = true := by
    rw [Std.ExtTreeMap.contains_eq_isSome_getElem?, hs]
    rfl
  have hpos : g.slots.size ≠ 0 := by
    intro hzero
    rw [Std.ExtTreeMap.eq_empty_iff_size_eq_zero.mpr hzero] at hmem
    simp at hmem
  unfold SceneGraph.release
  rw [hs]
  dsimp only
  cases s.parent with
  | none =>
    simp only [Std.ExtTreeMap.size_erase, hmem, if_true, List.length_cons]
    omega
  | some p =>
    simp only [Std.ExtTreeMap.size_erase, Std.ExtTreeMap.contains_modify,
      Std.ExtTreeMap.size_modify, hmem, if_true, List.length_cons]
    omega

/-- Freeing a slot keeps the stamps. -/
theorem release (h : Aged g stamp bound) (i : SlotIndex) : Aged (g.release i) stamp bound := by
  cases hs : g.slots[i]? with
  | none =>
    unfold SceneGraph.release
    rwa [hs]
  | some s =>
    have hfree : (g.release i).free = i :: g.free := by
      unfold SceneGraph.release
      rw [hs]
    have howners : (g.release i).owners = g.owners.erase s.node.id := by
      unfold SceneGraph.release
      rw [hs]
    have htotal : (g.release i).slots.size + (g.release i).free.length
        = g.slots.size + g.free.length := total_release hs
    constructor
    case below =>
      intro j t' ht'
      obtain ⟨-, t, ht, -⟩ := old_release hs ht'
      exact h.below j t ht
    case child =>
      intro j t' ht' k hk
      obtain ⟨hne, t, ht, hk⟩ := h.not_mem_children_release hs ht' hk
      obtain ⟨u, hu, hparent, hlt⟩ := h.child j t ht k hk
      obtain ⟨u', hu', -, hparent'⟩ := kept_release hs hne hu
      exact ⟨u', hu', hparent'.trans hparent, hlt⟩
    case nodup =>
      intro j t' ht'
      obtain ⟨-, t, ht, -, -, ⟨-, hchildren⟩ | ⟨-, hchildren⟩⟩ := old_release hs ht'
      · exact hchildren ▸ h.nodup j t ht
      · exact hchildren ▸ (h.nodup j t ht).erase i
    case owner =>
      intro id j hj
      rw [howners, Std.ExtTreeMap.getElem?_erase] at hj
      split at hj
      · cases hj
      · next hid =>
        rw [Std.compare_eq_iff_eq] at hid
        obtain ⟨t, ht, htid, hmax⟩ := h.owner id j hj
        -- The name that lost its owner is that of the freed slot, so this is another slot.
        have hne : i ≠ j := by
          rintro rfl
          rw [hs] at ht
          exact hid ((Option.some.inj ht) ▸ htid)
        obtain ⟨t', ht', hnode, -⟩ := kept_release hs hne ht
        refine ⟨t', ht', hnode ▸ htid, ?_⟩
        intro k u' hu' huid
        obtain ⟨-, u, hu, hunode, -⟩ := old_release hs hu'
        exact hmax k u hu (hunode ▸ huid)
    case unfilled =>
      intro j hj
      rw [hfree] at hj
      rw [slots_release hs]
      split
      · rfl
      · next hne =>
        have hold := h.unfilled j ((List.mem_cons.mp hj).resolve_left fun heq => hne heq.symm)
        rw [hold]
        split <;> rfl
    case freedOnce =>
      rw [hfree]
      refine List.nodup_cons.mpr ⟨fun hmem => ?_, h.freedOnce⟩
      rw [h.unfilled i hmem] at hs
      cases hs
    case numberedFree =>
      intro j hj
      rw [htotal]
      rw [hfree] at hj
      rcases List.mem_cons.mp hj with rfl | hj
      · exact h.numbered j s hs
      · exact h.numberedFree j hj
    case numbered =>
      intro j t' ht'
      obtain ⟨-, t, ht, -⟩ := old_release hs ht'
      rw [htotal]
      exact h.numbered j t ht

/-- So does removing a subtree. -/
theorem removeNode (h : Aged g stamp bound) (i : SlotIndex) :
    Aged (g.removeNode i) stamp bound := by
  unfold SceneGraph.removeNode
  -- The slots are listed before the first one is freed.
  generalize g.subtree g.slots.size i = slots
  induction slots generalizing g with
  | nil => exact h
  | cons j rest ih => exact ih (h.release j)

end Aged

end SceneCompiler.SceneGraph
