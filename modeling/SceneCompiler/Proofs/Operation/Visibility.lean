import Mathlib
import SceneCompiler.Proofs.Operation.Failures
import SceneCompiler.Proofs.Operation.Selection
import SceneCompiler.Proofs.Scene.Forest
/-!
# Selections are in view, and so are their trees

Whether a node is in view is found by a walk up from it, past all of its ancestors. A tree is built
by a walk down, which looks at each node's own flag only. Where names are apart the two agree: the
walk down comes to a child by the slot that it is found in, so the ancestors of the child are those
of its parent besides itself. With repeated names a child's name may lead to another node, which a
hidden ancestor takes out of view.

* `InView.child`: visible children of what is in view are in view.
* `selects_iff`: what a selector means.
* `resolveSelection_inView`: selections that are found, and the trees of them.
-/

namespace SceneCompiler

namespace SceneGraph

variable {g : SceneGraph}

/-! ## Definitions -/

/-- A name is in view if it leads to a node that is visible with all of its ancestors. -/
def InView (g : SceneGraph) (id : NodeId) : Prop :=
  ∃ i, g.indexOf? id = some i ∧ ∀ j, g.Above j i → g.Shown j

/-- `part` has those of some names that are in view, in the same order. -/
inductive PartInView (g : SceneGraph) : List NodeId → List NodeId → Prop where
  | nil : PartInView g [] []
  | keep {id : NodeId} {ids part : List NodeId} (inView : g.InView id)
      (rest : PartInView g ids part) : PartInView g (id :: ids) (id :: part)
  | leave {id : NodeId} {ids part : List NodeId} (hidden : ¬ g.InView id)
      (rest : PartInView g ids part) : PartInView g (id :: ids) part

/-- The names that a selector means: those of its own that are in view, or those of the selection
where it is absent or has none. -/
inductive Selects (g : SceneGraph) (selector : Option (List NodeId)) : List NodeId → Prop where
  | given {ids found : List NodeId} (asked : selector = some ids) (part : g.PartInView ids found)
      (usable : found ≠ []) : Selects g selector found
  | host {found : List NodeId} (nothing : ∀ ids, selector = some ids → g.PartInView ids [])
      (part : g.PartInView g.selection found) : Selects g selector found

/-! ## The walk down -/

theorem isEffectivelyVisible_iff_inView (hg : g.Reachable) (id : NodeId) :
    g.isEffectivelyVisible id = true ↔ g.InView id := by
  obtain ⟨stamp, bound, haged⟩ := hg.exists_aged
  exact isEffectivelyVisible_iff haged hg.linked id

/-- Where names are apart the visible children of a node in view are in view. -/
theorem InView.child (hg : g.Reachable) (hapart : g.NamedApart) {p c : NodeId} (hp : g.InView p)
    (hc : c ∈ g.visibleChildIds p) : g.InView c := by
  obtain ⟨stamp, bound, haged⟩ := hg.exists_aged
  obtain ⟨i, hi, habove⟩ := hp
  obtain ⟨hchild, hvisible⟩ := List.mem_filter.mp hc
  unfold childIds at hchild
  rw [hi] at hchild
  obtain ⟨k, hk, n, hn, hname⟩ := mem_idsAt.mp hchild
  obtain ⟨m, hm, hshown⟩ := (Option.any_eq_true _ _).mp hvisible
  obtain ⟨j, hj, hnode⟩ := Option.bind_eq_some_iff.mp hm
  -- The name of the child leads to its own slot, since no other node has it.
  obtain rfl : j = k := hapart j k m n hnode hn ((hg.id_of_find? hm).trans hname.symm)
  refine ⟨j, hj, fun a ha => ?_⟩
  rcases (Relation.ReflTransGen.cases_tail_iff g.ParentOf a j).mp ha with rfl | ⟨q, hq, hqj⟩
  · exact ⟨m, hnode, hshown⟩
  · obtain rfl : i = q := Option.some.inj
      ((show g.parent? j = some i from (hg.linked.listed i j).mp hk).symm.trans hqj)
    exact habove a hq

/-- A tree whose roots are in view has nothing else. -/
theorem inView_of_mem_order (hg : g.Reachable) (hapart : g.NamedApart) {roots : List NodeId}
    (hroots : ∀ id ∈ roots, g.InView id) (policy : DepthPolicy) :
    ∀ id ∈ (g.visibleTree roots policy).order, g.InView id := by
  rw [order_visibleTree hg]
  refine forall_mem_listing (fun p c hp hc => hp.child hg hapart hc) _ fun id hid => ?_
  exact hroots id (List.mem_eraseDups.mp (List.mem_filter.mp hid).1)

/-! ## Selectors -/

theorem partInView_iff (hg : g.Reachable) {ids part : List NodeId} :
    g.PartInView ids part ↔ part = g.usable ids := by
  constructor
  · intro h
    induction h with
    | nil => rfl
    | keep inView _ ih =>
      rw [usable, List.filter_cons_of_pos ((isEffectivelyVisible_iff_inView hg _).mpr inView), ih,
        usable]
    | leave hidden _ ih =>
      rw [usable, List.filter_cons_of_neg (mt (isEffectivelyVisible_iff_inView hg _).mp hidden), ih,
        usable]
  · rintro rfl
    induction ids with
    | nil => exact .nil
    | cons id rest ih =>
      by_cases hid : g.isEffectivelyVisible id = true
      · rw [usable, List.filter_cons_of_pos hid]
        exact .keep ((isEffectivelyVisible_iff_inView hg id).mp hid) ih
      · rw [usable, List.filter_cons_of_neg hid]
        exact .leave (mt (isEffectivelyVisible_iff_inView hg id).mpr hid) ih

/-- What a selector means is what is chosen for it. -/
theorem selects_iff (hg : g.Reachable) {selector : Option (List NodeId)} {found : List NodeId} :
    g.Selects selector found ↔ found = g.chosen selector := by
  unfold chosen
  constructor
  · rintro (⟨rfl, hpart, hne⟩ | ⟨hnothing, hpart⟩)
    · obtain rfl := (partInView_iff hg).mp hpart
      rw [Option.getD_some, if_neg (mt List.isEmpty_iff.mp hne)]
    · obtain rfl := (partInView_iff hg).mp hpart
      rw [if_pos]
      cases selector with
      | none => rfl
      | some ids =>
        rw [Option.getD_some, ← (partInView_iff hg).mp (hnothing ids rfl)]
        rfl
  · split
    · next hempty =>
      rintro rfl
      refine .host (fun ids hids => (partInView_iff hg).mpr ?_) ((partInView_iff hg).mpr rfl)
      rw [hids, Option.getD_some] at hempty
      exact (List.isEmpty_iff.mp hempty).symm
    · next hne =>
      rintro rfl
      cases selector with
      | none => exact absurd rfl hne
      | some ids =>
        exact .given rfl ((partInView_iff hg).mpr rfl) (mt List.isEmpty_iff.mpr hne)

end SceneGraph

namespace Session

open SceneGraph

variable {m : Type → Type} [Monad m] [LawfulMonad m] {g : SceneGraph}

/-! ## Results -/

/-- A compilation of a selection that was found does not lack a visible root. -/
theorem compile_ne_noVisibleRoot (hg : g.Reachable) {selector : Option (List NodeId)}
    {ids : List NodeId} (hfound : g.resolveSelection selector = .ok ids) (s : Session m)
    (c : Caches m) (request : CompileRequest) (hroots : request.roots = ids) :
    Ensures (s.compile g request).run c fun outcome _ => outcome ≠ .error .noVisibleRoot := by
  refine (compile_outcome g request fun code _ => s.loadPlugin_kind code).imp ?_
  rintro outcome d ⟨hfails, -⟩ heq
  obtain ⟨-, ⟨-, hempty⟩ | ⟨code, -, -, hkind⟩⟩ := hfails _ heq
  · rw [hroots] at hempty
    exact rootIds_ne_nil hg hfound _ hempty
  · cases hkind _ rfl

/-- Nodes are effectively visible when they are in view. A selection is found unless the selector
means nothing, and it is what the selector means; compiling it does not lack a root, and where names
are apart all nodes of its tree are in view. -/
theorem resolveSelection_inView (hg : g.Reachable) (selector : Option (List NodeId)) :
    (∀ id, g.isEffectivelyVisible id = true ↔ g.InView id)
      ∧ (∀ ids, g.resolveSelection selector = .ok ids ↔ ids ≠ [] ∧ g.Selects selector ids)
      ∧ (∀ e, g.resolveSelection selector = .error e
        ↔ e = .nothingSelected ∧ g.Selects selector [])
      ∧ ∀ ids, g.resolveSelection selector = .ok ids →
        (∀ (s : Session m) (c : Caches m) (request : CompileRequest), request.roots = ids →
          Ensures (s.compile g request).run c fun outcome _ => outcome ≠ .error .noVisibleRoot)
        ∧ (g.NamedApart → ∀ policy, ∀ id ∈ (g.visibleTree ids policy).order, g.InView id) := by
  refine ⟨isEffectivelyVisible_iff_inView hg, fun ids => ?_, fun e => ?_,
    fun ids hfound => ⟨compile_ne_noVisibleRoot hg hfound, fun hapart policy => ?_⟩⟩
  · rw [selects_iff hg]
    exact resolveSelection_eq_ok
  · rw [selects_iff hg, eq_comm (a := [])]
    exact resolveSelection_eq_error
  · refine inView_of_mem_order hg hapart (fun id hid => ?_) policy
    exact (isEffectivelyVisible_iff_inView hg id).mp ((usable_of_resolveSelection hfound).2 id hid)

/-! ### A frame that shows half of what it has -/

/-- A selected frame with two rows of one cell each, the second of which is hidden. -/
def halfHidden : SceneGraph :=
  ((((({} : SceneGraph).addRoot { id := ⟨"f"⟩, type := .frame }).addNode 0
    { id := ⟨"a"⟩, type := .frame }).addNode 0
      { id := ⟨"b"⟩, type := .frame, visible := false }).addNode 1
        { id := ⟨"c"⟩, type := .rectangle }).addNode 2 { id := ⟨"d"⟩, type := .rectangle } |>.select
          [⟨"f"⟩]

theorem reachable_halfHidden : halfHidden.Reachable := by
  refine Reachable.select (((Reachable.empty.addRoot _).addNode ?_ _).addNode ?_ _ |>.addNode ?_ _
    |>.addNode ?_ _) _
  all_goals
    rw [Std.ExtTreeMap.mem_iff_contains]
    decide +kernel

theorem namedApart_halfHidden : halfHidden.NamedApart :=
  namedApart_of_nodup (by decide +kernel)

/-- The cell of the hidden row is not in view, though it is visible by its own flag. Next to the
other row it is left out; alone it gives way to the selection. -/
theorem resolveSelection_halfHidden :
    halfHidden.Reachable ∧ halfHidden.NamedApart
      ∧ halfHidden.Selects (some [⟨"d"⟩, ⟨"a"⟩]) [⟨"a"⟩]
      ∧ halfHidden.Selects (some [⟨"d"⟩]) [⟨"f"⟩]
      ∧ halfHidden.isVisible ⟨"d"⟩ = true ∧ ¬ halfHidden.InView ⟨"d"⟩
      ∧ (halfHidden.visibleTree [⟨"f"⟩] ⟨9, 9⟩).order = [⟨"f"⟩, ⟨"a"⟩, ⟨"c"⟩]
      ∧ halfHidden.InView ⟨"c"⟩ := by
  have hspec := fun selector =>
    resolveSelection_inView (m := Id) reachable_halfHidden selector
  have hrow : halfHidden.resolveSelection (some [⟨"d"⟩, ⟨"a"⟩]) = .ok [⟨"a"⟩] := by rfl
  have hframe : halfHidden.resolveSelection (some [⟨"d"⟩]) = .ok [⟨"f"⟩] := by rfl
  have horder : (halfHidden.visibleTree [⟨"f"⟩] ⟨9, 9⟩).order = [⟨"f"⟩, ⟨"a"⟩, ⟨"c"⟩] := by
    decide +kernel
  refine ⟨reachable_halfHidden, namedApart_halfHidden, (((hspec _).2.1 _).mp hrow).2,
    (((hspec _).2.1 _).mp hframe).2, by decide +kernel, ?_, horder, ?_⟩
  · rw [← (hspec none).1]
    decide +kernel
  · refine ((hspec _).2.2.2 _ hframe).2 namedApart_halfHidden ⟨9, 9⟩ _ ?_
    rw [horder]
    decide

/-- A row of a visible frame shares its name with a later row of a hidden one. The tree of the
visible frame has the name, which leads to the other row and is not in view. -/
theorem order_of_repeated_name : ∃ g : SceneGraph, g.Reachable ∧ g.InView ⟨"f"⟩
    ∧ (g.visibleTree [⟨"f"⟩] ⟨9, 9⟩).order = [⟨"f"⟩, ⟨"a"⟩] ∧ ¬ g.InView ⟨"a"⟩ := by
  have hreachable : ((((({} : SceneGraph).addRoot { id := ⟨"f"⟩, type := .frame }).addNode 0
      { id := ⟨"a"⟩, type := .frame }).addRoot
        { id := ⟨"h"⟩, type := .frame, visible := false }).addNode 2
          { id := ⟨"a"⟩, type := .frame }).Reachable := by
    refine ((Reachable.empty.addRoot _).addNode ?_ _).addRoot _ |>.addNode ?_ _
    all_goals
      rw [Std.ExtTreeMap.mem_iff_contains]
      decide +kernel
  refine ⟨_, hreachable, ?_, by decide +kernel, ?_⟩
  all_goals
    rw [← isEffectivelyVisible_iff_inView hreachable]
    decide +kernel

end Session

end SceneCompiler
