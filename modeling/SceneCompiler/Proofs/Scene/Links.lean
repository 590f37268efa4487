import Mathlib
import SceneCompiler.Proofs.Scene.Removal
/-!
# Parents and children

Every slot notes its parent and lists its children. Both say the same in every scene that comes
about, the children are in the order of their slots, and the roots are the slots without a parent.
No slot lies above itself, so the walks down from a slot and up from it come to an end, and the
count of slots bounds them.

* `mem_subtree`, `mem_lineage`: the walks come to all slots below and above.
* `Linked.inserted`, `Linked.removeNode`: adding and removing keep the links.
-/

namespace SceneCompiler.SceneGraph

variable {g g' : SceneGraph} {stamp : SlotIndex → Nat} {bound : Nat} {i j p : SlotIndex}
  {freed : List SlotIndex}

/-! ## Links -/

/-- A slot notes another one as its parent. -/
def ParentOf (g : SceneGraph) (p j : SlotIndex) : Prop :=
  g.parent? j = some p

/-- `i` is `j` itself or an ancestor of `j`. -/
def Above (g : SceneGraph) : SlotIndex → SlotIndex → Prop :=
  Relation.ReflTransGen g.ParentOf

/-- Parents and children agree. -/
structure Linked (g : SceneGraph) : Prop where
  listed : ∀ p j, j ∈ g.children p ↔ g.ParentOf p j
  increasing : ∀ p, (g.children p).Pairwise (· < ·)
  roots : ∀ i, i ∈ g.roots ↔ i ∈ g.slots ∧ g.parent? i = none
  rootsOnce : g.roots.Nodup

theorem ParentOf.mem_slots (h : g.ParentOf p j) : j ∈ g.slots := by
  obtain ⟨s, hs, -⟩ := Option.bind_eq_some_iff.mp (show g.slots[j]?.bind (·.parent) = some p from h)
  exact SceneGraph.mem_slots.mpr ⟨s, hs⟩

/-- A slot that lists a child is filled, and so is the child. -/
theorem Aged.of_mem_children (h : Aged g stamp bound) (hj : j ∈ g.children p) :
    p ∈ g.slots ∧ g.ParentOf p j ∧ stamp p < stamp j := by
  cases hs : g.slots[p]? with
  | none =>
    rw [children_of_unfilled hs] at hj
    cases hj
  | some s =>
    rw [children_of_slot hs] at hj
    obtain ⟨t, ht, hparent, hlt⟩ := h.child p s hs j hj
    exact ⟨SceneGraph.mem_slots.mpr ⟨s, hs⟩, (parent?_of_slot ht).trans hparent, hlt⟩

/-! ## Walks down and up -/

/-- How many filled slots come up to a number by some measure. -/
def countUpTo (g : SceneGraph) (measure : SlotIndex → Nat) (most : Nat) : Nat :=
  (g.slots.keys.filter fun k => measure k ≤ most).length

theorem countUpTo_le (measure : SlotIndex → Nat) (most : Nat) :
    g.countUpTo measure most ≤ g.slots.size := by
  rw [← Std.ExtTreeMap.length_keys]
  exact List.length_filter_le _ _

theorem countUpTo_pos (measure : SlotIndex → Nat) (hi : i ∈ g.slots) :
    0 < g.countUpTo measure (measure i) := by
  apply List.length_pos_of_mem (a := i)
  rw [List.mem_filter]
  exact ⟨Std.ExtTreeMap.mem_keys.mpr hi, by simp⟩

/-- A slot with a larger measure counts itself besides. -/
theorem countUpTo_lt (measure : SlotIndex → Nat) {least : Nat} (hi : i ∈ g.slots)
    (hlt : least < measure i) : g.countUpTo measure least < g.countUpTo measure (measure i) := by
  have hfewer : (g.slots.keys.filter fun k => measure k ≤ least)
      = (g.slots.keys.filter fun k => measure k ≤ measure i).filter
        fun k => measure k ≤ least := by
    rw [List.filter_filter]
    refine List.filter_congr fun k _ => ?_
    rw [Bool.eq_iff_iff, Bool.and_eq_true, decide_eq_true_eq, decide_eq_true_eq]
    omega
  show (g.slots.keys.filter fun k => measure k ≤ least).length < _
  rw [hfewer, countUpTo, List.length_filter_lt_length_iff_exists]
  refine ⟨i, List.mem_filter.mpr ⟨Std.ExtTreeMap.mem_keys.mpr hi, by simp⟩, ?_⟩
  rw [decide_eq_true_eq]
  omega

/-- The slots of a subtree are those that its top lies above. -/
theorem mem_subtree_of_height (h : Aged g stamp bound) (hg : Linked g) {fuel : Nat}
    (hi : i ∈ g.slots) (hle : g.countUpTo (bound - stamp ·) (bound - stamp i) ≤ fuel) :
    j ∈ g.subtree fuel i ↔ g.Above i j := by
  induction fuel generalizing i with
  | zero =>
    have hpos := countUpTo_pos (bound - stamp ·) hi
    omega
  | succ fuel ih =>
    -- The slots below a child are fewer, since younger ones are.
    have hbelow : ∀ c ∈ g.children i, j ∈ g.subtree fuel c ↔ g.Above c j := by
      intro c hc
      obtain ⟨-, hparent, hlt⟩ := h.of_mem_children hc
      obtain ⟨s, hs⟩ := mem_slots.mp hparent.mem_slots
      have hyoung := h.below c s hs
      refine ih hparent.mem_slots ?_
      have hfewer := countUpTo_lt (bound - stamp ·) hi
        (show bound - stamp c < bound - stamp i by omega)
      omega
    rw [subtree, List.mem_append, List.mem_flatMap, List.mem_singleton, Above,
      Relation.ReflTransGen.cases_head_iff]
    constructor
    · rintro (⟨c, hc, hj⟩ | rfl)
      · exact Or.inr ⟨c, (hg.listed i c).mp hc, (hbelow c hc).mp hj⟩
      · exact Or.inl rfl
    · rintro (rfl | ⟨c, hc, hj⟩)
      · exact Or.inr rfl
      · have hc := (hg.listed i c).mpr hc
        exact Or.inl ⟨c, hc, (hbelow c hc).mpr hj⟩

theorem mem_subtree (h : Aged g stamp bound) (hg : Linked g) (hi : i ∈ g.slots) :
    j ∈ g.subtree g.slots.size i ↔ g.Above i j :=
  mem_subtree_of_height h hg hi (countUpTo_le _ _)

/-- The lineage of a slot has the slots above it. -/
theorem mem_lineage_of_depth (h : Aged g stamp bound) (hg : Linked g) {fuel : Nat}
    (hi : i ∈ g.slots) (hle : g.countUpTo stamp (stamp i) ≤ fuel) :
    j ∈ g.lineage fuel i ↔ g.Above j i := by
  induction fuel generalizing i with
  | zero =>
    have hpos := countUpTo_pos stamp hi
    omega
  | succ fuel ih =>
    rw [lineage, List.mem_cons, Above, Relation.ReflTransGen.cases_tail_iff]
    cases hp : g.parent? i with
    | none =>
      simp [ParentOf, hp, eq_comm]
    | some p =>
      obtain ⟨hfilled, -, hlt⟩ := h.of_mem_children ((hg.listed p i).mpr hp)
      have hfewer := countUpTo_lt stamp hi hlt
      have habove := ih hfilled (by omega)
      constructor
      · rintro (rfl | hj)
        · exact Or.inl rfl
        · exact Or.inr ⟨p, habove.mp hj, hp⟩
      · rintro (rfl | ⟨q, hq, hparent⟩)
        · exact Or.inl rfl
        · obtain rfl : p = q := Option.some.inj (hp.symm.trans hparent)
          exact Or.inr (habove.mpr hq)

theorem mem_lineage (h : Aged g stamp bound) (hg : Linked g) (hi : i ∈ g.slots) :
    j ∈ g.lineage g.slots.size i ↔ g.Above j i :=
  mem_lineage_of_depth h hg hi (countUpTo_le _ _)

/-- No slot lies above itself by way of another one. -/
theorem Linked.acyclic (h : Aged g stamp bound) (hg : Linked g) (i : SlotIndex) :
    ¬ Relation.TransGen g.ParentOf i i := by
  -- Children are younger than their parents, and so are all that lie below.
  have hlt : ∀ j, Relation.TransGen g.ParentOf i j → stamp i < stamp j := by
    intro j hj
    induction hj with
    | single hp => exact (h.of_mem_children ((hg.listed _ _).mpr hp)).2.2
    | tail _ hp ih => exact ih.trans (h.of_mem_children ((hg.listed _ _).mpr hp)).2.2
  exact fun hi => lt_irrefl _ (hlt i hi)

/-! ## What adding and removing keep -/

theorem linked_empty : Linked {} where
  listed := by simp [children, ParentOf, parent?]
  increasing := by simp [children]
  roots := by simp
  rootsOnce := List.nodup_nil

theorem pairwise_insertIndex {l : List SlotIndex} (hl : l.Pairwise (· < ·)) (hi : i ∉ l) :
    (insertIndex i l).Pairwise (· < ·) := by
  induction l with
  | nil => exact List.pairwise_singleton _ _
  | cons k rest ih =>
    obtain ⟨hk, hrest⟩ := List.pairwise_cons.mp hl
    obtain ⟨hne, hi⟩ := not_or.mp (mt List.mem_cons.mpr hi)
    unfold insertIndex
    split
    · next hlt =>
      refine List.pairwise_cons.mpr ⟨fun m hm => ?_, hl⟩
      rcases List.mem_cons.mp hm with rfl | hm
      · exact hlt
      · exact hlt.trans (hk m hm)
    · next hge =>
      refine List.pairwise_cons.mpr ⟨fun m hm => ?_, ih hrest hi⟩
      rcases (mem_insertIndex rest).mp hm with rfl | hm
      · exact lt_of_le_of_ne (not_lt.mp hge) (Ne.symm hne)
      · exact hk m hm

namespace Inserted

variable {parent : Option SlotIndex} {node : SceneNode}

theorem nodeAt? (hin : Inserted g g' parent node) (i : SlotIndex) :
    g'.nodeAt? i = if g.nextIndex = i then some node else g.nodeAt? i := by
  unfold SceneGraph.nodeAt?
  rw [hin.slots]
  split
  · rfl
  · split
    · cases g.slots[i]? <;> rfl
    · rfl

theorem parent? (hin : Inserted g g' parent node) (i : SlotIndex) :
    g'.parent? i = if g.nextIndex = i then parent else g.parent? i := by
  unfold SceneGraph.parent?
  rw [hin.slots]
  split
  · rfl
  · split
    · cases g.slots[i]? <;> rfl
    · rfl

theorem children (hin : Inserted g g' parent node) (hparent : ∀ p, parent = some p → p ∈ g.slots)
    (i : SlotIndex) : g'.children i = if g.nextIndex = i then []
      else if parent = some i then insertIndex g.nextIndex (g.children i)
      else g.children i := by
  unfold SceneGraph.children
  rw [hin.slots]
  split
  · rfl
  · split
    · next hp =>
      obtain ⟨s, hs⟩ := mem_slots.mp (hparent i hp)
      rw [hs]
      rfl
    · rfl

theorem mem_slots (hin : Inserted g g' parent node) :
    i ∈ g'.slots ↔ g.nextIndex = i ∨ i ∈ g.slots := by
  rw [Std.ExtTreeMap.mem_iff_isSome_getElem?, Std.ExtTreeMap.mem_iff_isSome_getElem?, hin.slots]
  split
  · next heq => simp [heq]
  · next hne => split <;> simp [hne]

theorem indexOf? (hin : Inserted g g' parent node) (id : NodeId) :
    g'.indexOf? id = if node.id = id then some g.nextIndex else g.indexOf? id := by
  unfold SceneGraph.indexOf?
  rw [hin.owners, Std.ExtTreeMap.getElem?_insert]
  simp only [Std.compare_eq_iff_eq]

end Inserted

/-- A new node is linked to its parent, or it is a root. -/
theorem Linked.inserted {parent : Option SlotIndex} {node : SceneNode} (hg : Linked g)
    (h : Aged g stamp bound) (hin : Inserted g g' parent node)
    (hparent : ∀ p, parent = some p → p ∈ g.slots)
    (hroots : g'.roots = if parent = none then g.roots ++ [g.nextIndex] else g.roots) :
    Linked g' := by
  have hnew : ¬ g.nextIndex ∈ g.slots := by
    rw [SceneGraph.mem_slots, h.nextIndex_unfilled]
    simp
  -- The next slot was not filled before, so it had no children and was no child.
  have hchildless : ∀ j, ¬ g.ParentOf g.nextIndex j := fun j hj =>
    hnew (h.of_mem_children ((hg.listed _ _).mpr hj)).1
  have hparentless : ∀ p, ¬ g.ParentOf p g.nextIndex := fun p hp => hnew hp.mem_slots
  constructor
  case listed =>
    intro p j
    rw [hin.children hparent, ParentOf, hin.parent?]
    by_cases hp : g.nextIndex = p
    · -- The new slot has no children yet.
      rw [if_pos hp]
      refine iff_of_false List.not_mem_nil ?_
      split
      · exact fun heq => hnew (hp ▸ hparent p heq)
      · exact fun hj => hchildless j (hp ▸ hj)
    · rw [if_neg hp]
      by_cases hj : g.nextIndex = j
      · -- It is a child of its parent, and of nobody else.
        rw [if_pos hj, ← hj]
        split
        · next heq => exact iff_of_true ((mem_insertIndex _).mpr (Or.inl rfl)) heq
        · next hne => exact iff_of_false (mt (hg.listed p _).mp (hparentless p)) hne
      · rw [if_neg hj]
        have hold := hg.listed p j
        split
        · rw [mem_insertIndex, or_iff_right fun heq => hj heq.symm]
          exact hold
        · exact hold
  case increasing =>
    intro p
    rw [hin.children hparent]
    split
    · exact List.Pairwise.nil
    · split
      · exact pairwise_insertIndex (hg.increasing p) (mt (hg.listed p _).mp (hparentless p))
      · exact hg.increasing p
  case roots =>
    intro i
    have hold := hg.roots i
    rw [hroots, hin.mem_slots, hin.parent?]
    by_cases hi : g.nextIndex = i
    · have hnot : i ∉ g.roots := fun hmem => hnew (hi ▸ (hold.mp hmem).1)
      rw [if_pos hi]
      split
      · next hnone => simp [hi, hnone]
      · next hsome => simp [hnot, hsome]
    · rw [if_neg hi, or_iff_right hi]
      split
      · rw [List.mem_append, List.mem_singleton, or_iff_left fun heq => hi heq.symm]
        exact hold
      · exact hold
  case rootsOnce =>
    rw [hroots]
    split
    · refine List.nodup_append.mpr ⟨hg.rootsOnce, List.nodup_singleton _, ?_⟩
      intro i hi j hj heq
      rw [List.mem_singleton.mp hj] at heq
      exact hnew (heq ▸ ((hg.roots i).mp hi).1)
    · exact hg.rootsOnce

/-- The children of freed slots have to be freed too. -/
theorem Linked.foldl_release (hg : Linked g) (h : Aged g stamp bound)
    (hclosed : ∀ p ∈ freed, ∀ j, g.ParentOf p j → j ∈ freed) :
    Linked (freed.foldl release g) where
  listed := by
    intro p j
    have hold := hg.listed p j
    rw [children_foldl_release h freed, ParentOf, parent?_foldl_release h freed]
    by_cases hj : j ∈ freed
    · -- A freed slot is nobody's child.
      rw [if_pos hj]
      refine iff_of_false ?_ nofun
      split
      · exact List.not_mem_nil
      · simp [hj]
    · rw [if_neg hj]
      split
      · next hp =>
        -- The children of a freed slot are freed too, so this is none of them.
        exact iff_of_false List.not_mem_nil fun hparent => hj (hclosed p hp j hparent)
      · simpa [hj, ParentOf] using hold
  increasing := by
    intro p
    rw [children_foldl_release h freed]
    split
    · exact List.Pairwise.nil
    · exact (hg.increasing p).filter _
  roots := by
    intro i
    have hold := hg.roots i
    rw [roots_foldl_release h (fun k hk => ((hg.roots k).mp hk).1) hg.rootsOnce,
      mem_slots_foldl_release h freed, parent?_foldl_release h freed, List.mem_filter,
      decide_eq_true_eq, hold]
    by_cases hi : i ∈ freed
    · simp [hi]
    · simp [hi]
  rootsOnce := by
    rw [roots_foldl_release h (fun k hk => ((hg.roots k).mp hk).1) hg.rootsOnce]
    exact hg.rootsOnce.filter _

/-- Where there is no node, there is nothing to remove. -/
theorem removeNode_of_unfilled (h : g.slots[i]? = none) : g.removeNode i = g := by
  have hsubtree : ∀ j ∈ g.subtree g.slots.size i, j = i := by
    cases g.slots.size with
    | zero => nofun
    | succ fuel =>
      rw [subtree, children_of_unfilled h]
      simp
  unfold removeNode
  generalize g.subtree g.slots.size i = freed at hsubtree
  induction freed with
  | nil => rfl
  | cons k rest ih =>
    have hk : g.release k = g := by
      rw [hsubtree k List.mem_cons_self, release, h]
    rw [List.foldl_cons, hk]
    exact ih fun j hj => hsubtree j (List.mem_cons_of_mem k hj)

/-- Removing a subtree leaves the others linked. -/
theorem Linked.removeNode (hg : Linked g) (h : Aged g stamp bound) (i : SlotIndex) :
    Linked (g.removeNode i) := by
  cases hs : g.slots[i]? with
  | none =>
    rw [removeNode_of_unfilled hs]
    exact hg
  | some s =>
    refine hg.foldl_release h fun p hp j hj => ?_
    have hi : i ∈ g.slots := mem_slots.mpr ⟨s, hs⟩
    rw [mem_subtree h hg hi] at hp ⊢
    exact hp.tail hj

end SceneCompiler.SceneGraph
