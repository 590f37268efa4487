import Mathlib
import SceneCompiler.Proofs.Asset.Outermost
import SceneCompiler.Proofs.Scene.Removal
/-!
# Nodes that have gone

A tree may be older than the scene that its pictures are planned from. Names that still resolve
resolve to the same nodes as before, so nodes that have gone can only keep a group or a frame from
becoming a picture, and never make it one.

* `find?_of_removeAll`: what is found after some removals was there before.
* `isPromotable_removeAll`: a container stays promotable just when it and all below it remain.
* `plansRemaining_removeAll`: only nodes that remain are planned.
-/

namespace SceneCompiler.SceneGraph

variable {g : SceneGraph} {t : VisibleTree} {id : NodeId} {n : SceneNode}

/-! ## Removals -/

/-- Removes subtrees, one after the other. -/
def removeAll (g : SceneGraph) (slots : List SlotIndex) : SceneGraph :=
  slots.foldl removeNode g

/-- A name resolves to the same node in an earlier and in a later scene. -/
def Remains (earlier later : SceneGraph) (id : NodeId) : Prop :=
  ∃ n, later.find? id = some n ∧ earlier.find? id = some n

theorem Remains.find?_eq {later : SceneGraph} (h : Remains g later id) :
    later.find? id = g.find? id := by
  obtain ⟨n, hlater, hearlier⟩ := h
  rw [hlater, hearlier]

/-- Removing a subtree makes no name resolve to another node. -/
theorem find?_of_removeNode (hg : g.Reachable) {i : SlotIndex}
    (h : (g.removeNode i).find? id = some n) : g.find? id = some n := by
  obtain ⟨stamp, bound, haged⟩ := hg.exists_aged
  obtain ⟨j, hindex, hnode⟩ := Option.bind_eq_some_iff.mp h
  rw [indexOf?_removeNode haged] at hindex
  rw [nodeAt?_removeNode haged] at hnode
  refine Option.bind_eq_some_iff.mpr ⟨j, ?_, ?_⟩
  · split at hindex
    · cases hindex
    · exact hindex
  · split at hnode
    · cases hnode
    · exact hnode

theorem find?_of_removeAll (hg : g.Reachable) {removed : List SlotIndex}
    (h : (g.removeAll removed).find? id = some n) : g.find? id = some n := by
  induction removed generalizing g with
  | nil => exact h
  | cons i rest ih => exact find?_of_removeNode hg (ih (hg.removeNode i) h)

theorem remains_of_find? (hg : g.Reachable) {removed : List SlotIndex}
    (h : (g.removeAll removed).find? id = some n) : Remains g (g.removeAll removed) id :=
  ⟨n, h, find?_of_removeAll hg h⟩

/-! ## Promotable containers -/

/-- Whether a container is promotable is decided by its node and the nodes below it. -/
theorem isPromotable_congr {g' : SceneGraph}
    (h : ∀ x ∈ id :: t.descendants id, g'.find? x = g.find? x) :
    g'.isPromotable t id = g.isPromotable t id := by
  have hself : g'.find? id = g.find? id := h id List.mem_cons_self
  have hall : (t.descendants id).all (g'.allowsPicture t)
      = (t.descendants id).all (g.allowsPicture t) := by
    rw [Bool.eq_iff_iff, List.all_eq_true, List.all_eq_true]
    refine forall₂_congr fun x hx => ?_
    rw [allowsPicture, allowsPicture, h x (List.mem_cons_of_mem id hx)]
  have hany : (t.descendants id).any g'.isDrawnPath = (t.descendants id).any g.isDrawnPath := by
    rw [Bool.eq_iff_iff, List.any_eq_true, List.any_eq_true]
    refine exists_congr fun x => and_congr_right fun hx => ?_
    rw [isDrawnPath, isDrawnPath, h x (List.mem_cons_of_mem id hx)]
  rw [isPromotable, isPromotable, hself, hall, hany]

/-- The node of a promotable container and all nodes below it are there. -/
theorem exists_find?_of_isPromotable (h : g.isPromotable t id) :
    ∀ x ∈ id :: t.descendants id, ∃ n, g.find? x = some n := by
  unfold isPromotable at h
  split at h
  · cases h
  · next n hn =>
    simp only [Bool.and_eq_true, List.all_eq_true] at h
    obtain ⟨⟨-, hall⟩, -⟩ := h
    refine List.forall_mem_cons.mpr ⟨⟨n, hn⟩, fun x hx => ?_⟩
    have hallows := hall x hx
    unfold allowsPicture at hallows
    split at hallows
    · cases hallows
    · next m hm => exact ⟨m, hm⟩

/-- A container is promotable after some removals just when it was before and has lost nothing. -/
theorem isPromotable_removeAll (hg : g.Reachable) (t : VisibleTree) (removed : List SlotIndex)
    (id : NodeId) : (g.removeAll removed).isPromotable t id ↔
      g.isPromotable t id ∧ ∀ x ∈ id :: t.descendants id, Remains g (g.removeAll removed) x := by
  constructor
  · intro h
    have hremains : ∀ x ∈ id :: t.descendants id, Remains g (g.removeAll removed) x := by
      intro x hx
      obtain ⟨n, hn⟩ := exists_find?_of_isPromotable h x hx
      exact remains_of_find? hg hn
    exact ⟨isPromotable_congr (fun x hx => (hremains x hx).find?_eq) ▸ h, hremains⟩
  · rintro ⟨h, hremains⟩
    exact (isPromotable_congr fun x hx => (hremains x hx).find?_eq).symm ▸ h

/-! ## Plans -/

theorem exists_find?_of_becomesVector (h : g.becomesVector t id) : ∃ n, g.find? id = some n := by
  unfold becomesVector at h
  split at h
  · next n _ hn => exact ⟨n, hn⟩
  · cases h

theorem exists_find?_of_becomesImage (h : g.becomesImage t id) : ∃ n, g.find? id = some n := by
  unfold becomesImage at h
  split at h
  · next n _ hn => exact ⟨n, hn⟩
  · cases h

/-- What is planned on a later scene is planned of nodes that remain: no removal makes a container
promotable, those that stay promotable have lost nothing, and all that is planned is there. -/
structure PlansRemaining (earlier later : SceneGraph) (t : VisibleTree) : Prop where
  promotable : ∀ id, later.isPromotable t id ↔
    earlier.isPromotable t id ∧ ∀ x ∈ id :: t.descendants id, Remains earlier later x
  vectorRoots : ∀ id ∈ (later.planAssets t).vectorRoots, Remains earlier later id
  imageNodes : ∀ id ∈ (later.planAssets t).imageNodes, Remains earlier later id

/-- Whatever is removed from a scene, plans on what is left never promote for missing nodes. -/
theorem plansRemaining_removeAll (hg : g.Reachable) (t : VisibleTree) (removed : List SlotIndex) :
    PlansRemaining g (g.removeAll removed) t := by
  have hplanned := planned_planUpTo (g.removeAll removed) t t.order
  constructor
  case promotable => exact isPromotable_removeAll hg t removed
  case vectorRoots =>
    intro id hid
    obtain ⟨n, hn⟩ := exists_find?_of_becomesVector (hplanned.roots id hid).2.1
    exact remains_of_find? hg hn
  case imageNodes =>
    intro id hid
    obtain ⟨n, hn⟩ := exists_find?_of_becomesImage (hplanned.images id hid).2
    exact remains_of_find? hg hn

/-! ### The frame with an icon and a photo -/

/-- Without the photo the icon stays promotable; without its path too it is not, and the plan on
what is left is empty. -/
theorem plansRemaining_iconWithoutPhoto :
    PlansRemaining iconAndPhoto (iconAndPhoto.removeAll [2])
        (iconAndPhoto.visibleTree [⟨"f"⟩] {})
      ∧ (iconAndPhoto.removeAll [2]).isPromotable (iconAndPhoto.visibleTree [⟨"f"⟩] {}) ⟨"icon"⟩
      ∧ (iconAndPhoto.removeAll [2]).planAssets (iconAndPhoto.visibleTree [⟨"f"⟩] {})
        = { vectorRoots := [⟨"icon"⟩]
            skippedIds := [⟨"inner"⟩, ⟨"path"⟩, ⟨"mask"⟩] }
      ∧ (iconAndPhoto.removeAll [2, 4]).planAssets (iconAndPhoto.visibleTree [⟨"f"⟩] {}) = {} := by
  refine ⟨plansRemaining_removeAll reachable_iconAndPhoto _ _, ?_, ?_, ?_⟩
  · decide +kernel
  · decide +kernel
  · decide +kernel

end SceneCompiler.SceneGraph
