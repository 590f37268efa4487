import Mathlib
import SceneCompiler.Proofs.Scene.Chronicle
import SceneCompiler.Proofs.Tree.Represents
/-!
# Paint order

Children are painted in the order in which they were added. They are listed by slot, so the two
orders agree as long as younger children sit in larger slots. A node that goes into a freed slot may
come before its older siblings.

* `children_eq_iff`: the children of a slot are in paint order just when younger ones sit in larger
  slots.
* `childIds_paintOrder`: the same for names; with no addition after a removal it is always so.
-/

namespace SceneCompiler

/-- The change adds a node. -/
def Edit.isAddition : Edit → Bool
  | .addRoot _ => true
  | .addNode _ _ => true
  | .removeNode _ => false

namespace Chronicle

variable {c d : Chronicle} {p : SlotIndex} {painted : List SlotIndex}

/-- A list has the children of a slot in the order in which they were added. -/
structure PaintOrder (c : Chronicle) (p : SlotIndex) (painted : List SlotIndex) : Prop where
  mem_iff : ∀ j, j ∈ painted ↔ c.scene.ParentOf p j
  inOrder : painted.Pairwise fun j k => c.added j < c.added k

/-- Of any two children of a slot the younger one sits in the larger slot. -/
def SlotsInOrder (c : Chronicle) (p : SlotIndex) : Prop :=
  ∀ j k, c.scene.ParentOf p j → c.scene.ParentOf p k → c.added j < c.added k → j < k

theorem Recorded.paintOrder_of_perm (hc : c.Recorded) (hperm : painted.Perm (c.scene.children p))
    (horder : painted.Pairwise fun j k => c.added j < c.added k) : c.PaintOrder p painted where
  mem_iff j := hperm.mem_iff.trans (hc.linked.listed p j)
  inOrder := horder

theorem Recorded.exists_paintOrder (hc : c.Recorded) (p : SlotIndex) :
    ∃ painted, c.PaintOrder p painted := by
  have hperm := List.mergeSort_perm (c.scene.children p) fun j k => decide (c.added j ≤ c.added k)
  have hsorted : ((c.scene.children p).mergeSort fun j k => c.added j ≤ c.added k).Pairwise
      fun j k => decide (c.added j ≤ c.added k) = true := by
    refine List.pairwise_mergeSort (fun i j k hij hjk => ?_) (fun i j => ?_) _
    · rw [decide_eq_true_eq] at *
      exact hij.trans hjk
    · rw [Bool.or_eq_true, decide_eq_true_eq, decide_eq_true_eq]
      exact le_total _ _
  have hnodup : (c.scene.children p).Nodup := (hc.linked.increasing p).imp Nat.ne_of_lt
  refine ⟨_, hc.paintOrder_of_perm hperm ?_⟩
  refine (hsorted.and (hperm.nodup_iff.mpr hnodup)).imp_of_mem ?_
  intro j k hj hk ⟨hle, hne⟩
  -- Different slots have different times.
  rw [decide_eq_true_eq] at hle
  refine lt_of_le_of_ne hle fun heq => hne (hc.apart j k ?_ ?_ heq)
  · exact ((hc.linked.listed p j).mp (hperm.mem_iff.mp hj)).mem_slots
  · exact ((hc.linked.listed p k).mp (hperm.mem_iff.mp hk)).mem_slots

/-- The children of a slot are in paint order just when the younger ones sit in larger slots. -/
theorem Recorded.children_eq_iff (hc : c.Recorded) (hpaint : c.PaintOrder p painted) :
    c.scene.children p = painted ↔ c.SlotsInOrder p := by
  have hincreasing := hc.linked.increasing p
  constructor
  · intro heq j k hj hk
    rw [heq] at hincreasing
    -- Along the list both the slots and the times grow.
    have hboth : painted.Pairwise fun j k =>
        (c.added j < c.added k → j < k) ∧ (c.added k < c.added j → k < j) := by
      refine (hincreasing.and hpaint.inOrder).imp ?_
      intro j k ⟨hslot, htime⟩
      exact ⟨fun _ => hslot, fun h => absurd h htime.asymm⟩
    have hsymm : Std.Symm fun j k : SlotIndex =>
        (c.added j < c.added k → j < k) ∧ (c.added k < c.added j → k < j) := ⟨fun _ _ h => h.symm⟩
    refine (hboth.forall_of_forall (fun i _ => ?_) ((hpaint.mem_iff j).mpr hj)
      ((hpaint.mem_iff k).mpr hk)).1
    exact ⟨fun h => absurd h (lt_irrefl _), fun h => absurd h (lt_irrefl _)⟩
  · intro hslots
    -- Both lists grow by slot and have the same slots.
    have hpainted : painted.Pairwise (· < ·) := by
      refine hpaint.inOrder.imp_of_mem fun hj hk hlt => ?_
      exact hslots _ _ ((hpaint.mem_iff _).mp hj) ((hpaint.mem_iff _).mp hk) hlt
    refine hincreasing.eq_of_mem_iff hpainted fun j => ?_
    rw [hc.linked.listed, hpaint.mem_iff]

/-! ## Names -/

/-- Where names are apart, the names of some nodes tell the nodes. -/
theorem eq_of_idsAt_eq {g : SceneGraph} (hapart : g.NamedApart) {l l' : List SlotIndex}
    (hl : ∀ i ∈ l, i ∈ g.slots) (hl' : ∀ i ∈ l', i ∈ g.slots) (h : g.idsAt l = g.idsAt l') :
    l = l' := by
  have hnode : ∀ i ∈ g.slots, ∃ n, g.nodeAt? i = some n := by
    intro i hi
    obtain ⟨s, hs⟩ := SceneGraph.mem_slots.mp hi
    exact ⟨s.node, SceneGraph.nodeAt?_eq hs⟩
  induction l generalizing l' with
  | nil =>
    cases l' with
    | nil => rfl
    | cons j rest' =>
      obtain ⟨m, hm⟩ := hnode j (hl' j List.mem_cons_self)
      simp [SceneGraph.idsAt, hm] at h
  | cons i rest ih =>
    obtain ⟨n, hn⟩ := hnode i (hl i List.mem_cons_self)
    cases l' with
    | nil => simp [SceneGraph.idsAt, hn] at h
    | cons j rest' =>
      obtain ⟨m, hm⟩ := hnode j (hl' j List.mem_cons_self)
      have hcons : n.id :: g.idsAt rest = m.id :: g.idsAt rest' := by
        simpa [SceneGraph.idsAt, hn, hm] using h
      obtain ⟨hid, hrest⟩ := List.cons.inj hcons
      rw [hapart i j n m hn hm hid, ih (fun k hk => hl k (List.mem_cons_of_mem i hk))
        (fun k hk => hl' k (List.mem_cons_of_mem j hk)) hrest]

/-! ## Changes of the order -/

/-- A new child keeps the slots of its siblings in order if it comes into a slot behind them. -/
theorem Recorded.slotsInOrder_grow_iff (hc : c.Recorded) {g : SceneGraph}
    {parent : Option SlotIndex} {node : SceneNode}
    (hin : SceneGraph.Inserted c.scene g parent node) (p : SlotIndex) :
    (c.grow g).SlotsInOrder p ↔ c.SlotsInOrder p ∧
      (parent = some p → ∀ j, c.scene.ParentOf p j → j < c.scene.nextIndex) := by
  have hold : ∀ j, c.scene.ParentOf p j → c.scene.nextIndex ≠ j :=
    fun j hj heq => hc.nextIndex_not_mem (heq ▸ hj.mem_slots)
  have hparent : ∀ j, g.ParentOf p j ↔
      if c.scene.nextIndex = j then parent = some p else c.scene.ParentOf p j := by
    intro j
    show g.parent? j = some p ↔ _
    rw [hin.parent?]
    split <;> rfl
  have holdParent : ∀ j, c.scene.ParentOf p j → g.ParentOf p j := by
    intro j hj
    rw [hparent, if_neg (hold j hj)]
    exact hj
  constructor
  · intro hslots
    refine ⟨fun j k hj hk hlt => hslots j k (holdParent j hj) (holdParent k hk) ?_, ?_⟩
    · rw [added_grow_of_ne (hold j hj), added_grow_of_ne (hold k hk)]
      exact hlt
    · intro hp j hj
      refine hslots j _ (holdParent j hj) ((hparent _).mpr (by rw [if_pos rfl]; exact hp)) ?_
      rw [added_grow_of_ne (hold j hj), added_grow_self]
      exact hc.lt_of_mem hj.mem_slots
  · rintro ⟨hslots, hbehind⟩ j k hj hk hlt
    have hj := (hparent j).mp hj
    have hk := (hparent k).mp hk
    by_cases hnj : c.scene.nextIndex = j
    · -- Nothing is younger than the new node.
      have hlast : (c.grow g).added k ≤ c.time := by
        by_cases hnk : c.scene.nextIndex = k
        · rw [← hnk, added_grow_self]
        · rw [if_neg hnk] at hk
          rw [added_grow_of_ne hnk]
          exact (hc.lt_of_mem hk.mem_slots).le
      rw [← hnj, added_grow_self] at hlt
      omega
    · rw [if_neg hnj] at hj
      by_cases hnk : c.scene.nextIndex = k
      · rw [if_pos hnk] at hk
        exact hnk ▸ hbehind hk j hj
      · rw [if_neg hnk] at hk
        rw [added_grow_of_ne hnj, added_grow_of_ne hnk] at hlt
        exact hslots j k hj hk hlt

/-- What is left after a removal is in the slots that it was in. -/
theorem Recorded.slotsInOrder_prune (hc : c.Recorded) (i : SlotIndex) (h : c.SlotsInOrder p) :
    (c.prune i).SlotsInOrder p := by
  have hold : ∀ j, (c.scene.removeNode i).ParentOf p j → c.scene.ParentOf p j := by
    intro j hj
    have hparent : (c.scene.removeNode i).parent? j = some p := hj
    rw [SceneGraph.parent?_removeNode hc.aged] at hparent
    split at hparent
    · cases hparent
    · exact hparent
  exact fun j k hj hk => h j k (hold j hj) (hold k hk)

/-! ## Additions before removals -/

/-- As long as nothing was removed, no slot is free, and all children are in order. -/
structure Untouched (c : Chronicle) : Prop extends Recorded c where
  free : c.scene.free = []
  slots : ∀ p, c.SlotsInOrder p

theorem Untouched.lt_nextIndex (hc : c.Untouched) {i : SlotIndex} (hi : i ∈ c.scene.slots) :
    i < c.scene.nextIndex := by
  rw [SceneGraph.nextIndex_of_unfreed hc.free]
  exact hc.aged.lt_size hc.free hi

theorem Untouched.grow (hc : c.Untouched) {g : SceneGraph} {parent : Option SlotIndex}
    {node : SceneNode} (hin : SceneGraph.Inserted c.scene g parent node)
    (hrecorded : (c.grow g).Recorded) : (c.grow g).Untouched where
  toRecorded := hrecorded
  free := by
    show g.free = []
    rw [hin.free, hc.free]
    rfl
  slots p := (hc.slotsInOrder_grow_iff hin p).mpr
    ⟨hc.slots p, fun _ _ hj => hc.lt_nextIndex hj.mem_slots⟩

theorem untouched_of_additions {additions : List Edit} (h : run? {} additions = some c)
    (hadd : ∀ e ∈ additions, e.isAddition) : c.Untouched := by
  have hempty : Untouched {} := ⟨recorded_empty, rfl, fun p j k hj => nomatch hj⟩
  refine run?_induction h hempty fun c d e he hc hstep => ?_
  have hrecorded := hc.toRecorded.step hstep
  obtain ⟨node, -, rfl⟩ | ⟨parent, node, -, -, rfl⟩ | ⟨i, rfl, -⟩ := step?_cases hstep
  · exact hc.grow (SceneGraph.inserted_addRoot hc.aged node) hrecorded
  · exact hc.grow (SceneGraph.inserted_addNode hc.aged node) hrecorded
  · cases hadd _ he

theorem run?_append {edits edits' : List Edit} :
    c.run? (edits ++ edits') = (c.run? edits).bind (·.run? edits') :=
  List.foldlM_append

theorem slotsInOrder_of_additions_first {additions removals : List Edit}
    (h : run? {} (additions ++ removals) = some c) (hadd : ∀ e ∈ additions, e.isAddition)
    (hremove : ∀ e ∈ removals, e.isAddition = false) (p : SlotIndex) : c.SlotsInOrder p := by
  obtain ⟨b, hb, hc⟩ := Option.bind_eq_some_iff.mp (run?_append.symm.trans h)
  have huntouched := untouched_of_additions hb hadd
  have hkept : c.Recorded ∧ c.SlotsInOrder p := by
    refine run?_induction (P := fun c => c.Recorded ∧ c.SlotsInOrder p) hc
      ⟨huntouched.toRecorded, huntouched.slots p⟩ ?_
    rintro c d e he ⟨hrecorded, hslots⟩ hstep
    refine ⟨hrecorded.step hstep, ?_⟩
    obtain ⟨node, rfl, -⟩ | ⟨parent, node, rfl, -⟩ | ⟨k, -, rfl⟩ := step?_cases hstep
    · cases hremove _ he
    · cases hremove _ he
    · exact hrecorded.slotsInOrder_prune k hslots
  exact hkept.2

/-! ## Children in paint order -/

/-- The children of every node are listed in paint order just when the younger of any two sits in
the larger slot. An addition upsets this just when it comes into a freed slot before a sibling;
where nothing is added after a removal it always holds. -/
theorem childIds_paintOrder {edits : List Edit} (h : run? {} edits = some c) :
    (∀ p ∈ c.scene.slots, ∃ painted, c.PaintOrder p painted ∧
      (c.scene.children p = painted ↔ c.SlotsInOrder p) ∧
      ∀ id, c.scene.indexOf? id = some p →
        (c.SlotsInOrder p → c.scene.childIds id = c.scene.idsAt painted) ∧
        (c.scene.NamedApart → c.scene.childIds id = c.scene.idsAt painted → c.SlotsInOrder p)) ∧
    (∀ parent node d, c.step? (.addNode parent node) = some d → ∀ p, d.SlotsInOrder p ↔
      c.SlotsInOrder p ∧ (parent = p → ∀ j, c.scene.ParentOf p j → j < c.scene.nextIndex)) ∧
    ∀ additions removals, edits = additions ++ removals → (∀ e ∈ additions, e.isAddition) →
      (∀ e ∈ removals, e.isAddition = false) → ∀ p, c.SlotsInOrder p := by
  have hc := recorded_of_run h
  refine ⟨fun p _ => ?_, ?_, ?_⟩
  · obtain ⟨painted, hpaint⟩ := hc.exists_paintOrder p
    have hiff := hc.children_eq_iff hpaint
    refine ⟨painted, hpaint, hiff, fun id hid => ?_⟩
    rw [SceneGraph.childIds_of_indexOf? hid]
    refine ⟨fun hslots => by rw [hiff.mpr hslots], fun hapart heq => hiff.mp ?_⟩
    refine eq_of_idsAt_eq hapart (fun i hi => ?_) (fun i hi => ?_) heq
    · exact ((hc.linked.listed p i).mp hi).mem_slots
    · exact ((hpaint.mem_iff i).mp hi).mem_slots
  · intro parent node d hstep p
    obtain ⟨_, heq, -⟩ | ⟨parent', node', heq, -, rfl⟩ | ⟨_, heq, -⟩ := step?_cases hstep
    · cases heq
    · obtain ⟨rfl, rfl⟩ := Edit.addNode.inj heq
      have hin : SceneGraph.Inserted c.scene (c.scene.addNode parent node) (some parent) node :=
        SceneGraph.inserted_addNode hc.aged node
      have hiff := hc.slotsInOrder_grow_iff hin p
      rwa [Option.some.injEq] at hiff
    · cases heq
  · rintro additions removals rfl hadd hremove p
    exact slotsInOrder_of_additions_first h hadd hremove p

/-- A frame with two rows gets a new row after one of them was removed. -/
def rowReplaced (i : SlotIndex) : List Edit :=
  [.addRoot { id := ⟨"f"⟩, type := .frame }, .addNode 0 { id := ⟨"a"⟩, type := .frame },
    .addNode 0 { id := ⟨"b"⟩, type := .frame }, .removeNode i,
    .addNode 0 { id := ⟨"c"⟩, type := .frame }]

/-- In place of the last row the new one is painted last. -/
theorem childIds_last_replaced : ∃ c painted, run? {} (rowReplaced 2) = some c ∧
    c.PaintOrder 0 painted ∧ c.scene.childIds ⟨"f"⟩ = c.scene.idsAt painted := by
  obtain ⟨c, hrun, hfilled, hid, hinOrder⟩ : ∃ c, run? {} (rowReplaced 2) = some c ∧
      0 ∈ c.scene.slots ∧ c.scene.indexOf? ⟨"f"⟩ = some 0 ∧
      ∀ j ∈ c.scene.children 0, ∀ k ∈ c.scene.children 0, c.added j < c.added k → j < k :=
    ⟨_, rfl, by decide +kernel, by decide +kernel, by decide +kernel⟩
  obtain ⟨painted, hpaint, -, hnames⟩ := (childIds_paintOrder hrun).1 0 hfilled
  have hlisted := (recorded_of_run hrun).linked.listed 0
  refine ⟨c, painted, hrun, hpaint, (hnames ⟨"f"⟩ hid).1 fun j k hj hk => ?_⟩
  exact hinOrder j ((hlisted j).mpr hj) k ((hlisted k).mpr hk)

/-- In place of the first row the new one comes before the old one. -/
theorem childIds_first_replaced : ∃ c, run? {} (rowReplaced 1) = some c ∧
    c.PaintOrder 0 [2, 1] ∧ c.scene.idsAt [2, 1] = [⟨"b"⟩, ⟨"c"⟩] ∧
    c.scene.childIds ⟨"f"⟩ = [⟨"c"⟩, ⟨"b"⟩] := by
  obtain ⟨c, hrun, hperm, horder, hids, hchildren⟩ : ∃ c, run? {} (rowReplaced 1) = some c ∧
      [2, 1].Perm (c.scene.children 0) ∧ [2, 1].Pairwise (fun j k => c.added j < c.added k) ∧
      c.scene.idsAt [2, 1] = [⟨"b"⟩, ⟨"c"⟩] ∧ c.scene.childIds ⟨"f"⟩ = [⟨"c"⟩, ⟨"b"⟩] :=
    ⟨_, rfl, by decide +kernel, by decide +kernel, by decide +kernel, by decide +kernel⟩
  exact ⟨c, hrun, (recorded_of_run hrun).paintOrder_of_perm hperm horder, hids, hchildren⟩

end Chronicle

end SceneCompiler
