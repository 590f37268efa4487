import Mathlib
import SceneCompiler.Operation.Selection
import SceneCompiler.Proofs.Scene.Reachable
import SceneCompiler.Proofs.Table
import SceneCompiler.Tree.Build
/-!
# Selections that are compiled

A selection that is found has visible nodes only, so a compilation of it has a root.

* `isVisible_of_isEffectivelyVisible`: usable nodes are visible.
* `rootIds_ne_nil`: the tree of a selection that is found has roots.
-/

namespace SceneCompiler.SceneGraph

variable {g : SceneGraph}

/-- A node that is visible with all of its ancestors is visible. -/
theorem isVisible_of_isEffectivelyVisible (hg : g.Reachable) {id : NodeId}
    (h : g.isEffectivelyVisible id = true) : g.isVisible id = true := by
  obtain ⟨stamp, bound, haged⟩ := hg.exists_aged
  unfold isEffectivelyVisible at h
  split at h
  · next i hi =>
    obtain ⟨s, hs, -⟩ := haged.owner id i hi
    -- The slot is filled, so the lineage has fuel to start with it.
    have hfilled : i ∈ g.slots := mem_iff_exists_getElem?.mpr ⟨s, hs⟩
    obtain ⟨fuel, hfuel⟩ : ∃ fuel, g.slots.size = fuel + 1 := by
      refine Nat.exists_eq_succ_of_ne_zero fun hzero => ?_
      rw [Std.ExtTreeMap.eq_empty_iff_size_eq_zero.mpr hzero] at hfilled
      exact Std.ExtTreeMap.not_mem_empty hfilled
    rw [hfuel, lineage, List.all_cons, Bool.and_eq_true] at h
    unfold isVisible find?
    rw [hi, Option.bind_some]
    exact h.1
  · cases h

/-- The usable nodes of a selector, or else those of the selection; there may be none. -/
def chosen (g : SceneGraph) (selector : Option (List NodeId)) : List NodeId :=
  if (g.usable (selector.getD [])).isEmpty then g.usable g.selection
  else g.usable (selector.getD [])

theorem resolveSelection_eq (selector : Option (List NodeId)) :
    g.resolveSelection selector = if (g.chosen selector).isEmpty then .error .nothingSelected
      else .ok (g.chosen selector) :=
  rfl

theorem resolveSelection_eq_ok {selector : Option (List NodeId)} {ids : List NodeId} :
    g.resolveSelection selector = .ok ids ↔ ids ≠ [] ∧ ids = g.chosen selector := by
  rw [resolveSelection_eq]
  cases g.chosen selector with
  | nil => simp +contextual
  | cons id rest => simp +contextual [eq_comm]

theorem resolveSelection_eq_error {selector : Option (List NodeId)} {e : SessionError} :
    g.resolveSelection selector = .error e ↔ e = .nothingSelected ∧ g.chosen selector = [] := by
  rw [resolveSelection_eq]
  cases g.chosen selector with
  | nil => simp [eq_comm]
  | cons id rest => simp

/-- The selection that is found is not empty, and all of it can be used. -/
theorem usable_of_resolveSelection {selector : Option (List NodeId)} {roots : List NodeId}
    (h : g.resolveSelection selector = .ok roots) :
    roots ≠ [] ∧ ∀ id ∈ roots, g.isEffectivelyVisible id = true := by
  obtain ⟨hne, rfl⟩ := resolveSelection_eq_ok.mp h
  refine ⟨hne, fun id hid => ?_⟩
  unfold chosen at hid
  split at hid <;> exact (List.mem_filter.mp hid).2

/-- The tree of a selection that is found has roots. -/
theorem rootIds_ne_nil (hg : g.Reachable) {selector : Option (List NodeId)} {roots : List NodeId}
    (h : g.resolveSelection selector = .ok roots) (policy : DepthPolicy) :
    (g.visibleTree roots policy).rootIds ≠ [] := by
  obtain ⟨hne, husable⟩ := usable_of_resolveSelection h
  obtain ⟨id, hid⟩ := List.exists_mem_of_ne_nil roots hne
  have hroot : id ∈ (g.visibleTree roots policy).rootIds := by
    show id ∈ g.visibleRoots roots
    unfold visibleRoots
    exact List.mem_filter.mpr
      ⟨List.mem_eraseDups.mpr hid, isVisible_of_isEffectivelyVisible hg (husable id hid)⟩
  exact List.ne_nil_of_mem hroot

end SceneCompiler.SceneGraph
