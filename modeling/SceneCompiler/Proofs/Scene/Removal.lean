import Mathlib
import SceneCompiler.Proofs.Scene.Aged
import SceneCompiler.Proofs.Table
/-!
# Freeing slots

A subtree is removed slot by slot. As a whole that takes the freed slots out of the scene, out of
the lists of children and roots, and their names out of the table of owners, and leaves all else
alone.

* `slots_foldl_release`: the slots that are left.
* `owners_foldl_release`: the names that still resolve.
* `roots_foldl_release`: the roots that are left.
* `nodeAt?_removeNode`, `indexOf?_removeNode`: what removing a subtree leaves.
-/

namespace SceneCompiler

/-! ## Lists of children -/

/-- A slot that lists only the children that are left. -/
def Slot.without (s : Slot) (freed : List SlotIndex) : Slot :=
  { s with children := s.children.filter (· ∉ freed) }

theorem Slot.without_of_disjoint {s : Slot} {freed : List SlotIndex}
    (h : ∀ k ∈ freed, k ∉ s.children) : s.without freed = s := by
  have hfilter : s.children.filter (· ∉ freed) = s.children := by
    rw [List.filter_eq_self]
    intro k hk
    rw [decide_eq_true_eq]
    exact fun hfreed => h k hfreed hk
  unfold Slot.without
  rw [hfilter]

theorem Slot.without_cons (s : Slot) (i : SlotIndex) (rest : List SlotIndex) :
    (s.without [i]).without rest = s.without (i :: rest) := by
  unfold Slot.without
  have hfilter : (s.children.filter (· ∉ [i])).filter (· ∉ rest)
      = s.children.filter (· ∉ i :: rest) := by
    rw [List.filter_filter]
    refine List.filter_congr fun k _ => ?_
    rw [Bool.eq_iff_iff]
    simp [and_comm]
  rw [hfilter]

namespace SceneGraph

variable {g : SceneGraph} {stamp : SlotIndex → Nat} {bound : Nat} {i j : SlotIndex}
  {freed : List SlotIndex}

/-! ## Slots and what they hold -/

theorem mem_slots : i ∈ g.slots ↔ ∃ s, g.slots[i]? = some s :=
  mem_iff_exists_getElem?

/-- As long as no slot is free, the slots are numbered without gaps. -/
theorem Aged.lt_size (h : Aged g stamp bound) (hfree : g.free = []) (hi : i ∈ g.slots) :
    i < g.slots.size := by
  obtain ⟨s, hs⟩ := mem_slots.mp hi
  simpa [hfree] using h.numbered i s hs

theorem nextIndex_of_unfreed (hfree : g.free = []) : g.nextIndex = g.slots.size := by
  rw [nextIndex, hfree]

theorem mem_idsAt {id : NodeId} {slots : List SlotIndex} :
    id ∈ g.idsAt slots ↔ ∃ k ∈ slots, ∃ n, g.nodeAt? k = some n ∧ n.id = id := by
  simp [idsAt]

theorem parent?_of_slot {s : Slot} (h : g.slots[i]? = some s) : g.parent? i = s.parent := by
  unfold parent?
  rw [h]
  rfl

theorem children_of_slot {s : Slot} (h : g.slots[i]? = some s) : g.children i = s.children := by
  unfold children
  rw [h]
  rfl

theorem children_of_unfilled (h : g.slots[i]? = none) : g.children i = [] := by
  unfold children
  rw [h]
  rfl

theorem childIds_of_indexOf? {id : NodeId} (h : g.indexOf? id = some i) :
    g.childIds id = g.idsAt (g.children i) := by
  unfold childIds
  rw [h]

/-! ## What is left -/

/-- Freeing a slot takes it out of the scene and out of every list of children. -/
theorem Aged.slots_release_eq (h : Aged g stamp bound) (i j : SlotIndex) :
    (g.release i).slots[j]? = if i = j then none else g.slots[j]?.map (Slot.without · [i]) := by
  cases hs : g.slots[i]? with
  | none =>
    have hrelease : g.release i = g := by
      unfold SceneGraph.release
      rw [hs]
    rw [hrelease]
    split
    · next heq => rw [← heq, hs]
    · cases ht : g.slots[j]? with
      | none => rfl
      | some t =>
        -- A slot that is not filled is nobody's child.
        refine congrArg some (Slot.without_of_disjoint fun k hk hmem => ?_).symm
        rw [List.mem_singleton.mp hk] at hmem
        obtain ⟨u, hu, -⟩ := h.child j t ht i hmem
        rw [hs] at hu
        cases hu
  | some s =>
    rw [Aged.slots_release hs]
    split
    · rfl
    · cases ht : g.slots[j]? with
      | none =>
        split <;> rfl
      | some t =>
        split
        · -- The children of the parent are listed once each.
          have herase : t.children.erase i = t.children.filter (· ∉ [i]) := by
            rw [(h.nodup j t ht).erase_eq_filter]
            refine List.filter_congr fun k _ => ?_
            rw [Bool.eq_iff_iff]
            simp
          show some { t with children := t.children.erase i } = _
          rw [herase]
          rfl
        · next hparent =>
          refine congrArg some (Slot.without_of_disjoint fun k hk hmem => ?_).symm
          rw [List.mem_singleton.mp hk] at hmem
          obtain ⟨u, hu, hup, -⟩ := h.child j t ht i hmem
          rw [hs] at hu
          exact hparent ((Option.some.inj hu) ▸ hup)

/-- Freeing some slots, one after the other, takes just these out. -/
theorem slots_foldl_release (h : Aged g stamp bound) (freed : List SlotIndex)
    (j : SlotIndex) : (freed.foldl release g).slots[j]? =
      if j ∈ freed then none else g.slots[j]?.map (Slot.without · freed) := by
  induction freed generalizing g with
  | nil =>
    rw [List.foldl_nil, if_neg List.not_mem_nil]
    cases g.slots[j]? with
    | none => rfl
    | some t =>
      have hsame : t.without [] = t :=
        Slot.without_of_disjoint fun _ hk => absurd hk List.not_mem_nil
      exact congrArg some hsame.symm
  | cons i rest ih =>
    rw [List.foldl_cons, ih (h.release i), h.slots_release_eq]
    by_cases hj : j ∈ rest
    · rw [if_pos hj, if_pos (List.mem_cons_of_mem i hj)]
    · by_cases hi : i = j
      · rw [if_neg hj, if_pos hi, if_pos (hi ▸ List.mem_cons_self)]
        rfl
      · have hnew : j ∉ i :: rest := by
          rw [List.mem_cons, not_or]
          exact ⟨fun heq => hi heq.symm, hj⟩
        rw [if_neg hj, if_neg hi, if_neg hnew, Option.map_map]
        -- The lists lose the first freed slot and then the others.
        exact congrArg (g.slots[j]?.map ·) (funext fun t => t.without_cons i rest)

theorem nodeAt?_foldl_release (h : Aged g stamp bound) (freed : List SlotIndex) (j : SlotIndex) :
    (freed.foldl release g).nodeAt? j = if j ∈ freed then none else g.nodeAt? j := by
  unfold nodeAt?
  rw [slots_foldl_release h]
  split
  · rfl
  · rw [Option.map_map]
    rfl

theorem parent?_foldl_release (h : Aged g stamp bound) (freed : List SlotIndex) (j : SlotIndex) :
    (freed.foldl release g).parent? j = if j ∈ freed then none else g.parent? j := by
  unfold parent?
  rw [slots_foldl_release h]
  split
  · rfl
  · cases g.slots[j]? <;> rfl

theorem children_foldl_release (h : Aged g stamp bound) (freed : List SlotIndex) (j : SlotIndex) :
    (freed.foldl release g).children j =
      if j ∈ freed then [] else (g.children j).filter (· ∉ freed) := by
  unfold children
  rw [slots_foldl_release h]
  split
  · rfl
  · cases g.slots[j]? <;> rfl

theorem mem_slots_foldl_release (h : Aged g stamp bound) (freed : List SlotIndex) :
    j ∈ (freed.foldl release g).slots ↔ j ∉ freed ∧ j ∈ g.slots := by
  rw [Std.ExtTreeMap.mem_iff_isSome_getElem?, slots_foldl_release h,
    Std.ExtTreeMap.mem_iff_isSome_getElem?]
  split
  · next hmem => simp [hmem]
  · next hmem => simp [hmem]

/-- The names of the freed slots no longer resolve; all other names resolve as before. -/
theorem owners_foldl_release (h : Aged g stamp bound) (freed : List SlotIndex) (id : NodeId) :
    (freed.foldl release g).owners[id]? =
      if id ∈ g.idsAt freed then none else g.owners[id]? := by
  induction freed generalizing g with
  | nil => simp [idsAt]
  | cons i rest ih =>
    have hnode : ∀ k, (g.release i).nodeAt? k = if k ∈ [i] then none else g.nodeAt? k :=
      nodeAt?_foldl_release h [i]
    have howner : (g.release i).owners[id]? =
        if id ∈ g.idsAt [i] then none else g.owners[id]? := by
      unfold SceneGraph.release idsAt nodeAt?
      cases hs : g.slots[i]? with
      | none => simp [hs]
      | some s =>
        simp only [Std.ExtTreeMap.getElem?_erase, Std.compare_eq_iff_eq]
        simp [hs, eq_comm]
    -- A slot that is freed twice has lost its name the first time.
    have hnames : id ∈ g.idsAt (i :: rest) ↔
        id ∈ g.idsAt [i] ∨ id ∈ (g.release i).idsAt rest := by
      simp only [idsAt, List.mem_filterMap, hnode, List.mem_cons, List.not_mem_nil, or_false]
      constructor
      · rintro ⟨k, rfl | hk, hid⟩
        · exact Or.inl ⟨k, rfl, hid⟩
        · by_cases hki : k = i
          · exact Or.inl ⟨i, rfl, hki ▸ hid⟩
          · exact Or.inr ⟨k, hk, by rw [if_neg hki]; exact hid⟩
      · rintro (⟨k, rfl, hid⟩ | ⟨k, hk, hid⟩)
        · exact ⟨k, Or.inl rfl, hid⟩
        · split at hid
          · cases hid
          · exact ⟨k, Or.inr hk, hid⟩
    rw [List.foldl_cons, ih (h.release i), howner]
    by_cases hfirst : id ∈ g.idsAt [i]
    · rw [if_pos hfirst, if_pos (hnames.mpr (Or.inl hfirst))]
      split <;> rfl
    · by_cases hrest : id ∈ (g.release i).idsAt rest
      · rw [if_pos hrest, if_pos (hnames.mpr (Or.inr hrest))]
      · rw [if_neg hrest, if_neg hfirst, if_neg (mt hnames.mp (not_or.mpr ⟨hfirst, hrest⟩))]

theorem roots_release (g : SceneGraph) (i : SlotIndex) :
    (g.release i).roots = if i ∈ g.slots then g.roots.erase i else g.roots := by
  unfold release
  cases hs : g.slots[i]? with
  | none => rw [if_neg (by simp [mem_slots, hs])]
  | some s => rw [if_pos (mem_slots.mpr ⟨s, hs⟩)]

/-- Freed slots are no roots. -/
theorem roots_foldl_release (h : Aged g stamp bound) (hfilled : ∀ k ∈ g.roots, k ∈ g.slots)
    (honce : g.roots.Nodup) :
    (freed.foldl release g).roots = g.roots.filter (· ∉ freed) := by
  induction freed generalizing g with
  | nil => simp
  | cons i rest ih =>
    have hroots : (g.release i).roots = g.roots.filter (· ≠ i) := by
      rw [roots_release]
      split
      · rw [honce.erase_eq_filter]
        refine List.filter_congr fun k _ => ?_
        rw [Bool.eq_iff_iff]
        simp
      · next hunfilled =>
        -- A slot that is not filled is no root.
        rw [eq_comm, List.filter_eq_self]
        intro k hk
        rw [decide_eq_true_eq]
        rintro rfl
        exact hunfilled (hfilled k hk)
    have hfilled' : ∀ k ∈ (g.release i).roots, k ∈ (g.release i).slots := by
      intro k hk
      rw [hroots, List.mem_filter, decide_eq_true_eq] at hk
      refine (mem_slots_foldl_release h [i]).mpr ⟨?_, hfilled k hk.1⟩
      rw [List.mem_singleton]
      exact hk.2
    have honce' : (g.release i).roots.Nodup := by
      rw [hroots]
      exact honce.filter _
    rw [List.foldl_cons, ih (h.release i) hfilled' honce', hroots, List.filter_filter]
    refine List.filter_congr fun k _ => ?_
    rw [Bool.eq_iff_iff]
    simp [and_comm]

/-! ## Removing a subtree -/

theorem nodeAt?_removeNode (h : Aged g stamp bound) (i j : SlotIndex) :
    (g.removeNode i).nodeAt? j =
      if j ∈ g.subtree g.slots.size i then none else g.nodeAt? j :=
  nodeAt?_foldl_release h _ j

theorem parent?_removeNode (h : Aged g stamp bound) (i j : SlotIndex) :
    (g.removeNode i).parent? j =
      if j ∈ g.subtree g.slots.size i then none else g.parent? j :=
  parent?_foldl_release h _ j

theorem indexOf?_removeNode (h : Aged g stamp bound) (i : SlotIndex) (id : NodeId) :
    (g.removeNode i).indexOf? id =
      if id ∈ g.idsAt (g.subtree g.slots.size i) then none else g.indexOf? id :=
  owners_foldl_release h _ id

theorem mem_slots_removeNode (h : Aged g stamp bound) (i : SlotIndex) :
    j ∈ (g.removeNode i).slots ↔ j ∉ g.subtree g.slots.size i ∧ j ∈ g.slots :=
  mem_slots_foldl_release h _

end SceneGraph

end SceneCompiler
