import Mathlib
import SceneCompiler.Asset.Plan
import SceneCompiler.Proofs.Tree.Order
/-!
# Plans of assets

The plan goes through the order of a tree once. A node that is planned as a vector picture makes
everything below it part of its picture; but a node that lies below and was visited before is
planned already. So the parts of a plan are disjoint, and without repetitions, just when no planned
node has a second place in the order where it would be planned again.

* `Planned.step`, `planned_planUpTo`: what the plan of a start of the order says.
* `grows_planUpTo`: what the rest of the order adds.
* `planAssets_wellFormed_iff`: when the parts are disjoint and without repetitions.
-/

namespace SceneCompiler

namespace AssetPlan

/-- Nothing is a root of a picture and part of another picture, and nothing is planned twice. -/
structure WellFormed (p : AssetPlan) : Prop where
  disjoint : ∀ id ∈ p.vectorRoots, id ∉ p.skippedIds
  vectorRoots : p.vectorRoots.Nodup
  imageNodes : p.imageNodes.Nodup

theorem mem_appendNew {id : NodeId} (new : List NodeId) :
    ∀ done : List NodeId, id ∈ appendNew done new ↔ id ∈ done ∨ id ∈ new := by
  induction new with
  | nil => simp [appendNew]
  | cons first rest ih =>
    intro done
    rw [show appendNew done (first :: rest)
      = appendNew (if done.contains first then done else done ++ [first]) rest from rfl, ih]
    by_cases hfirst : done.contains first
    · rw [if_pos hfirst]
      rw [List.contains_iff_mem] at hfirst
      constructor
      · rintro (h | h)
        · exact Or.inl h
        · exact Or.inr (List.mem_cons_of_mem _ h)
      · rintro (h | h)
        · exact Or.inl h
        · rcases List.mem_cons.mp h with rfl | h
          · exact Or.inl hfirst
          · exact Or.inr h
    · rw [if_neg hfirst, List.mem_append, List.mem_singleton, List.mem_cons, or_assoc]

end AssetPlan

namespace SceneGraph

variable {g : SceneGraph} {t : VisibleTree}

/-! ## One node -/

/-- The node becomes a vector picture, unless it is part of one. -/
def becomesVector (g : SceneGraph) (t : VisibleTree) (id : NodeId) : Bool :=
  match t.find? id, g.find? id with
  | some node, some n =>
    (!t.cappedIds.contains id && g.isPromotable t id) ||
      (node.assetKind = some .vector && !n.isMask)
  | _, _ => false

/-- The node is exported through its image fills, unless it is part of a vector picture. -/
def becomesImage (g : SceneGraph) (t : VisibleTree) (id : NodeId) : Bool :=
  match t.find? id, g.find? id with
  | some node, some _ => !g.becomesVector t id && node.assetKind = some .image
  | _, _ => false

/-- The plan after one node: as it was, with a vector picture, or with an image. -/
theorem planNode_eq (g : SceneGraph) (t : VisibleTree) (p : AssetPlan) (id : NodeId) :
    g.planNode t p id =
      if id ∈ p.skippedIds then p
      else if g.becomesVector t id then
        { p with
          vectorRoots := p.vectorRoots ++ [id]
          skippedIds := AssetPlan.appendNew p.skippedIds (t.descendants id) }
      else if g.becomesImage t id then { p with imageNodes := p.imageNodes ++ [id] }
      else p := by
  unfold planNode becomesImage becomesVector
  cases t.find? id with
  | none => simp
  | some node =>
    cases g.find? id with
    | none => simp
    | some n =>
      simp only [AssetPlan.isSkipped, List.contains_iff_mem]
      split
      · rfl
      · split
        · rfl
        · next hvector =>
          simp only [Bool.eq_false_of_not_eq_true hvector, Bool.not_false, Bool.true_and,
            decide_eq_true_eq]

/-- A node is added to one list at most, and the parts of pictures stay. -/
theorem grows_planNode (p : AssetPlan) (id : NodeId) :
    ∃ vectors images : List NodeId,
      (g.planNode t p id).vectorRoots = p.vectorRoots ++ vectors ∧ vectors.Sublist [id]
      ∧ (g.planNode t p id).imageNodes = p.imageNodes ++ images ∧ images.Sublist [id]
      ∧ ∀ x ∈ p.skippedIds, x ∈ (g.planNode t p id).skippedIds := by
  rw [planNode_eq]
  split
  · exact ⟨[], [], by simp, by simp, by simp, by simp, fun _ h => h⟩
  · split
    · refine ⟨[id], [], rfl, by simp, by simp, by simp, fun x hx => ?_⟩
      exact (AssetPlan.mem_appendNew _ _).mpr (Or.inl hx)
    · split
      · exact ⟨[], [id], by simp, by simp, rfl, by simp, fun _ h => h⟩
      · exact ⟨[], [], by simp, by simp, by simp, by simp, fun _ h => h⟩

/-! ## Starts of the order -/

/-- The plan after some nodes. -/
def planUpTo (g : SceneGraph) (t : VisibleTree) (nodes : List NodeId) : AssetPlan :=
  nodes.foldl (g.planNode t) {}

theorem planUpTo_concat (nodes : List NodeId) (id : NodeId) :
    g.planUpTo t (nodes ++ [id]) = g.planNode t (g.planUpTo t nodes) id := by
  unfold planUpTo
  rw [List.foldl_append, List.foldl_cons, List.foldl_nil]

/-- Further nodes add to the lists, in their order, and the parts of pictures stay. -/
theorem grows_planUpTo (g : SceneGraph) (t : VisibleTree) (nodes rest : List NodeId) :
    ∃ vectors images : List NodeId,
      (g.planUpTo t (nodes ++ rest)).vectorRoots = (g.planUpTo t nodes).vectorRoots ++ vectors
      ∧ vectors.Sublist rest
      ∧ (g.planUpTo t (nodes ++ rest)).imageNodes = (g.planUpTo t nodes).imageNodes ++ images
      ∧ images.Sublist rest
      ∧ ∀ x ∈ (g.planUpTo t nodes).skippedIds, x ∈ (g.planUpTo t (nodes ++ rest)).skippedIds := by
  induction rest using List.reverseRecOn with
  | nil => exact ⟨[], [], by simp, by simp, by simp, by simp, by simp⟩
  | append_singleton init last ih =>
    obtain ⟨vectors₁, images₁, hv₁, hvs₁, hi₁, his₁, hs₁⟩ := ih
    obtain ⟨vectors₂, images₂, hv₂, hvs₂, hi₂, his₂, hs₂⟩ :=
      grows_planNode (g := g) (t := t) (g.planUpTo t (nodes ++ init)) last
    rw [← List.append_assoc, planUpTo_concat]
    refine ⟨vectors₁ ++ vectors₂, images₁ ++ images₂, ?_, hvs₁.append hvs₂, ?_, his₁.append his₂,
      fun x hx => hs₂ x (hs₁ x hx)⟩
    · rw [hv₂, hv₁, List.append_assoc]
    · rw [hi₂, hi₁, List.append_assoc]

/-- What a plan says after some nodes. -/
structure Planned (g : SceneGraph) (t : VisibleTree) (nodes : List NodeId) (p : AssetPlan) :
    Prop where
  roots : ∀ r ∈ p.vectorRoots, r ∈ nodes ∧ g.becomesVector t r
    ∧ ∀ x ∈ t.descendants r, x ∈ p.skippedIds
  skipped : ∀ x ∈ p.skippedIds, ∃ r ∈ p.vectorRoots, x ∈ t.descendants r
  images : ∀ id ∈ p.imageNodes, id ∈ nodes ∧ g.becomesImage t id

/-- One node more. -/
theorem Planned.step {nodes : List NodeId} {p : AssetPlan} (h : Planned g t nodes p) (id : NodeId) :
    Planned g t (nodes ++ [id]) (g.planNode t p id) := by
  have hroots : ∀ r ∈ p.vectorRoots, r ∈ nodes ++ [id] ∧ g.becomesVector t r
      ∧ ∀ x ∈ t.descendants r, x ∈ p.skippedIds := fun r hr =>
    ⟨List.mem_append_left _ (h.roots r hr).1, (h.roots r hr).2⟩
  have himages : ∀ i ∈ p.imageNodes, i ∈ nodes ++ [id] ∧ g.becomesImage t i := fun i hi =>
    ⟨List.mem_append_left _ (h.images i hi).1, (h.images i hi).2⟩
  rw [planNode_eq]
  split
  · exact ⟨hroots, h.skipped, himages⟩
  · split
    · next hvector =>
      refine ⟨?_, ?_, himages⟩
      · intro r hr
        rcases List.mem_append.mp hr with hold | hnew
        · obtain ⟨hmem, hbecomes, hparts⟩ := hroots r hold
          exact ⟨hmem, hbecomes, fun x hx =>
            (AssetPlan.mem_appendNew _ _).mpr (Or.inl (hparts x hx))⟩
        · obtain rfl := List.mem_singleton.mp hnew
          exact ⟨by simp, hvector, fun x hx => (AssetPlan.mem_appendNew _ _).mpr (Or.inr hx)⟩
      · intro x hx
        rcases (AssetPlan.mem_appendNew _ _).mp hx with hold | hnew
        · obtain ⟨r, hr, hbelow⟩ := h.skipped x hold
          exact ⟨r, List.mem_append_left _ hr, hbelow⟩
        · exact ⟨id, by simp, hnew⟩
    · split
      · next himage =>
        refine ⟨hroots, h.skipped, ?_⟩
        intro i hi
        rcases List.mem_append.mp hi with hold | hnew
        · exact himages i hold
        · obtain rfl := List.mem_singleton.mp hnew
          exact ⟨by simp, himage⟩
      · exact ⟨hroots, h.skipped, himages⟩

/-- The plan of any start of the order. -/
theorem planned_planUpTo (g : SceneGraph) (t : VisibleTree) (nodes : List NodeId) :
    Planned g t nodes (g.planUpTo t nodes) := by
  induction nodes using List.reverseRecOn with
  | nil => exact ⟨by simp [planUpTo], by simp [planUpTo], by simp [planUpTo]⟩
  | append_singleton init last ih =>
    rw [planUpTo_concat]
    exact ih.step last

/-! ## Nodes that are visited again -/

/-- A vector picture that is no part of another one is planned at each of its places. -/
theorem vectorRoots_concat {nodes : List NodeId} {id : NodeId} (hid : g.becomesVector t id)
    (hskip : id ∉ (g.planUpTo t nodes).skippedIds) :
    (g.planUpTo t (nodes ++ [id])).vectorRoots = (g.planUpTo t nodes).vectorRoots ++ [id] := by
  rw [planUpTo_concat, planNode_eq, if_neg hskip, if_pos hid]

theorem not_becomesVector {id : NodeId} (h : g.becomesImage t id) : ¬ g.becomesVector t id := by
  unfold becomesImage at h
  split at h
  · simpa using (Bool.and_eq_true_iff.mp h).1
  · cases h

/-- So is an image. -/
theorem imageNodes_concat {nodes : List NodeId} {id : NodeId} (hid : g.becomesImage t id)
    (hskip : id ∉ (g.planUpTo t nodes).skippedIds) :
    (g.planUpTo t (nodes ++ [id])).imageNodes = (g.planUpTo t nodes).imageNodes ++ [id] := by
  rw [planUpTo_concat, planNode_eq, if_neg hskip, if_neg (not_becomesVector hid), if_pos hid]

/-- What is part of a picture at some place is part of it in the end. -/
theorem not_skipped_before {before after : List NodeId} {id : NodeId}
    (h : id ∉ (g.planUpTo t (before ++ after)).skippedIds) :
    id ∉ (g.planUpTo t before).skippedIds := by
  obtain ⟨_, _, -, -, -, -, hskip⟩ := grows_planUpTo g t before after
  exact fun hmem => h (hskip id hmem)

/-- The vector pictures of a start of the order are the first ones. -/
theorem vectorRoots_grow (g : SceneGraph) (t : VisibleTree) (nodes rest : List NodeId) :
    (g.planUpTo t nodes).vectorRoots <+: (g.planUpTo t (nodes ++ rest)).vectorRoots := by
  obtain ⟨vectors, _, hv, -⟩ := grows_planUpTo g t nodes rest
  exact ⟨vectors, hv.symm⟩

/-- So are its images. -/
theorem imageNodes_grow (g : SceneGraph) (t : VisibleTree) (nodes rest : List NodeId) :
    (g.planUpTo t nodes).imageNodes <+: (g.planUpTo t (nodes ++ rest)).imageNodes := by
  obtain ⟨_, images, -, -, hi, -⟩ := grows_planUpTo g t nodes rest
  exact ⟨images, hi.symm⟩

/-- A list that only grows along the order keeps a node that is added to it. -/
theorem mem_of_grows {f : List NodeId → List NodeId}
    (hgrows : ∀ nodes rest, f nodes <+: f (nodes ++ rest)) {id : NodeId} {before : List NodeId}
    (after : List NodeId) (hplace : f (before ++ [id]) = f before ++ [id]) :
    id ∈ f (before ++ id :: after) := by
  have hprefix := hgrows (before ++ [id]) after
  rw [List.append_assoc, List.singleton_append, hplace] at hprefix
  exact hprefix.subset (by simp)

/-- A list that only grows along the order has a node twice that is added to it at two places. -/
theorem not_nodup_of_grows {f : List NodeId → List NodeId}
    (hgrows : ∀ nodes rest, f nodes <+: f (nodes ++ rest)) {id : NodeId}
    {first between : List NodeId} (after : List NodeId)
    (hfirst : f (first ++ [id]) = f first ++ [id])
    (hsecond : f ((first ++ id :: between) ++ [id]) = f (first ++ id :: between) ++ [id]) :
    ¬ (f ((first ++ id :: between) ++ id :: after)).Nodup := by
  have hplanned : id ∈ f (first ++ id :: between) := mem_of_grows hgrows between hfirst
  have hprefix := hgrows ((first ++ id :: between) ++ [id]) after
  rw [List.append_assoc _ [id], List.singleton_append, hsecond] at hprefix
  intro hnodup
  have htwice := hnodup.sublist hprefix.sublist
  exact (List.nodup_append.mp htwice).2.2 id hplanned id (by simp) rfl

/-- A vector picture with two places is planned twice, unless it is part of another one. -/
theorem not_nodup_vectorRoots {before : List NodeId} (after : List NodeId) {id : NodeId}
    (hid : g.becomesVector t id) (hbefore : id ∈ before)
    (hskip : id ∉ (g.planUpTo t before).skippedIds) :
    ¬ (g.planUpTo t (before ++ id :: after)).vectorRoots.Nodup := by
  obtain ⟨first, between, rfl⟩ := List.append_of_mem hbefore
  exact not_nodup_of_grows (vectorRoots_grow g t) after
    (vectorRoots_concat hid (not_skipped_before hskip)) (vectorRoots_concat hid hskip)

/-- So is an image. -/
theorem not_nodup_imageNodes {before : List NodeId} (after : List NodeId) {id : NodeId}
    (hid : g.becomesImage t id) (hbefore : id ∈ before)
    (hskip : id ∉ (g.planUpTo t before).skippedIds) :
    ¬ (g.planUpTo t (before ++ id :: after)).imageNodes.Nodup := by
  obtain ⟨first, between, rfl⟩ := List.append_of_mem hbefore
  exact not_nodup_of_grows (imageNodes_grow g t) after
    (imageNodes_concat hid (not_skipped_before hskip)) (imageNodes_concat hid hskip)

/-! ## The plan of a tree -/

/-- A list with two places of an element has one with the other in front of it. -/
theorem exists_second_place {id : NodeId} {l : List NodeId} (h : 1 < l.count id) :
    ∃ before after, l = before ++ id :: after ∧ id ∈ before := by
  obtain ⟨before, after, rfl, hlast⟩ :=
    VisibleTree.exists_last_place (List.count_pos_iff.mp (Nat.lt_of_succ_lt h))
  refine ⟨before, after, rfl, List.count_pos_iff.mp ?_⟩
  rw [List.count_append, List.count_cons_self, List.count_eq_zero_of_not_mem hlast] at h
  omega

/-- The nodes that a plan could plan twice, or plan and skip: every vector picture has one place in
the order, and an image has a further place only behind a vector picture that it is part of. -/
structure PlansOnce (t : VisibleTree) (p : AssetPlan) : Prop where
  vectors : ∀ id ∈ p.vectorRoots, t.order.count id = 1
  images : ∀ id ∈ p.imageNodes, ∀ before after, t.order = before ++ id :: after → id ∈ before →
    ∃ r ∈ p.vectorRoots, r ∈ before ∧ id ∈ t.descendants r

/-- A plan that is disjoint and without repetitions plans each node at one place. -/
theorem plansOnce_of_wellFormed (h : (g.planAssets t).WellFormed) :
    PlansOnce t (g.planAssets t) := by
  have hplanned : Planned g t t.order (g.planAssets t) := planned_planUpTo g t t.order
  constructor
  · intro id hid
    obtain ⟨hmem, hbecomes, -⟩ := hplanned.roots id hid
    have hpos := List.count_pos_iff.mpr hmem
    by_contra hcount
    have htwice : 1 < t.order.count id := by omega
    obtain ⟨before, after, hsplit, hbefore⟩ := exists_second_place htwice
    have hskip : id ∉ (g.planUpTo t (before ++ id :: after)).skippedIds := by
      rw [← hsplit]
      exact h.disjoint id hid
    refine not_nodup_vectorRoots after hbecomes hbefore (not_skipped_before hskip) ?_
    rw [← hsplit]
    exact h.vectorRoots
  · intro id hid before after hsplit hbefore
    obtain ⟨-, hbecomes⟩ := hplanned.images id hid
    -- Were it not part of a picture at its second place, it would be planned again there.
    have hskip : id ∈ (g.planUpTo t before).skippedIds := by
      by_contra hskip
      refine not_nodup_imageNodes after hbecomes hbefore hskip ?_
      rw [← hsplit]
      exact h.imageNodes
    obtain ⟨r, hr, hbelow⟩ := (planned_planUpTo g t before).skipped id hskip
    refine ⟨r, ?_, ((planned_planUpTo g t before).roots r hr).1, hbelow⟩
    have hprefix := vectorRoots_grow g t before (id :: after)
    rw [← hsplit] at hprefix
    exact hprefix.subset hr

/-- A vector picture with one place is planned when the walk has passed that place, and what lies
below it is skipped from then on. -/
theorem skipped_of_passed (honce : PlansOnce t (g.planAssets t)) {r : NodeId}
    (hr : r ∈ (g.planAssets t).vectorRoots) {before after : List NodeId}
    (hsplit : t.order = before ++ after) (hbefore : r ∈ before) :
    ∀ x ∈ t.descendants r, x ∈ (g.planUpTo t before).skippedIds := by
  have hcount := honce.vectors r hr
  rw [hsplit, List.count_append] at hcount
  have hafter : r ∉ after := by
    have hpos := List.count_pos_iff.mpr hbefore
    rw [← List.count_eq_zero]
    omega
  obtain ⟨vectors, _, hv, hsub, -⟩ := grows_planUpTo g t before after
  rw [← hsplit] at hv
  have hplanned : r ∈ (g.planUpTo t before).vectorRoots := by
    have hr' : r ∈ (g.planUpTo t t.order).vectorRoots := hr
    rw [hv] at hr'
    exact (List.mem_append.mp hr').resolve_right fun h => hafter (hsub.mem h)
  exact ((planned_planUpTo g t before).roots r hplanned).2.2

/-- A node with one place that is part of a picture when the walk comes to it is not planned. -/
theorem not_planned_of_skipped {before after : List NodeId} {id : NodeId}
    (hsplit : t.order = before ++ id :: after) (honce : t.order.count id = 1)
    (hskip : id ∈ (g.planUpTo t before).skippedIds) :
    id ∉ (g.planAssets t).vectorRoots ∧ id ∉ (g.planAssets t).imageNodes := by
  rw [hsplit, List.count_append, List.count_cons_self] at honce
  have hbefore : id ∉ before := List.count_eq_zero.mp (by omega)
  have hafter : id ∉ after := List.count_eq_zero.mp (by omega)
  have hearly := planned_planUpTo g t before
  -- The plan does not change at the node's only place, so it was planned before or behind it.
  obtain ⟨vectors, images, hv, hvs, hi, his, -⟩ := grows_planUpTo g t (before ++ [id]) after
  rw [planUpTo_concat, planNode_eq, if_pos hskip, List.append_assoc _ [id], List.singleton_append,
    ← hsplit] at hv hi
  constructor
  · show id ∉ (g.planUpTo t t.order).vectorRoots
    rw [hv, List.mem_append, not_or]
    exact ⟨fun h => hbefore (hearly.roots id h).1, fun h => hafter (hvs.mem h)⟩
  · show id ∉ (g.planUpTo t t.order).imageNodes
    rw [hi, List.mem_append, not_or]
    exact ⟨fun h => hbefore (hearly.images id h).1, fun h => hafter (his.mem h)⟩

/-- What is part of a picture has a place at which it was part of one already: it comes after the
root, which has one place. -/
theorem exists_skipped_place
    (hafter : ∀ (a x : NodeId), x ∈ t.descendants a → t.ComesAfter a x)
    (honce : PlansOnce t (g.planAssets t)) {id : NodeId} (h : id ∈ (g.planAssets t).skippedIds) :
    ∃ before after, t.order = before ++ id :: after ∧ id ∈ (g.planUpTo t before).skippedIds := by
  have hplanned : Planned g t t.order (g.planAssets t) := planned_planUpTo g t t.order
  obtain ⟨r, hr, hbelow⟩ := hplanned.skipped id h
  obtain ⟨before, rest, hsplit, hlast⟩ := VisibleTree.exists_last_place (hplanned.roots r hr).1
  obtain ⟨between, after, rfl⟩ := List.append_of_mem (hafter r id hbelow before rest hsplit hlast)
  have hsplit' : t.order = (before ++ r :: between) ++ id :: after := by
    rw [hsplit, List.append_assoc, List.cons_append]
  exact ⟨_, _, hsplit', skipped_of_passed honce hr hsplit' (by simp) id hbelow⟩

/-- A root of a picture with one place is no part of another picture, as long as what lies below a
node comes after it: it would have been skipped at that place. -/
theorem disjoint_of_plansOnce
    (hafter : ∀ (a x : NodeId), x ∈ t.descendants a → t.ComesAfter a x)
    (honce : PlansOnce t (g.planAssets t)) :
    ∀ id ∈ (g.planAssets t).vectorRoots, id ∉ (g.planAssets t).skippedIds := by
  intro id hid hskipped
  obtain ⟨before, after, hsplit, hskip⟩ := exists_skipped_place hafter honce hskipped
  exact (not_planned_of_skipped hsplit (honce.vectors id hid) hskip).1 hid

/-- Roots of pictures that have one place are planned once. -/
theorem nodup_vectorRoots_of_plansOnce (honce : PlansOnce t (g.planAssets t)) :
    (g.planAssets t).vectorRoots.Nodup := by
  rw [List.nodup_iff_count_le_one]
  intro id
  by_cases hid : id ∈ (g.planAssets t).vectorRoots
  · obtain ⟨vectors, _, hv, hsub, -⟩ := grows_planUpTo g t [] t.order
    have hsublist : (g.planAssets t).vectorRoots.Sublist t.order := by
      show (g.planUpTo t ([] ++ t.order)).vectorRoots.Sublist t.order
      rw [hv]
      exact hsub
    exact (hsublist.count_le id).trans (honce.vectors id hid).le
  · rw [List.count_eq_zero_of_not_mem hid]
    exact Nat.zero_le _

/-- Images that have further places only behind pictures that they are part of are planned once. The
induction is on starts of the order. -/
theorem nodup_imageNodes_of_plansOnce (honce : PlansOnce t (g.planAssets t))
    (before : List NodeId) :
    ∀ after, t.order = before ++ after → (g.planUpTo t before).imageNodes.Nodup := by
  induction before using List.reverseRecOn with
  | nil => exact fun _ _ => List.nodup_nil
  | append_singleton init last ih =>
    intro after hsplit
    rw [List.append_assoc, List.singleton_append] at hsplit
    rw [planUpTo_concat, planNode_eq]
    split
    · exact ih _ hsplit
    · next hskip =>
      split
      · exact ih _ hsplit
      · split
        · refine List.nodup_append.mpr ⟨ih _ hsplit, by simp, ?_⟩
          rintro id hid _ hlast rfl
          obtain rfl := List.mem_singleton.mp hlast
          have hprefix := imageNodes_grow g t init (id :: after)
          rw [← hsplit] at hprefix
          have hplanned : id ∈ (g.planAssets t).imageNodes := hprefix.subset hid
          obtain ⟨r, hr, hpassed, hbelow⟩ := honce.images id hplanned init after hsplit
            ((planned_planUpTo g t init).images id hid).1
          exact hskip (skipped_of_passed honce hr hsplit hpassed id hbelow)
        · exact ih _ hsplit

/-! ## Orders without repetitions -/

/-- Where no node comes twice, none is planned twice. -/
theorem plansOnce_of_nodup (hnodup : t.order.Nodup) : PlansOnce t (g.planAssets t) := by
  have hplanned : Planned g t t.order (g.planAssets t) := planned_planUpTo g t t.order
  constructor
  · intro id hid
    exact List.count_eq_one_of_mem hnodup (hplanned.roots id hid).1
  · intro id _ before after hsplit hbefore
    rw [hsplit] at hnodup
    exact absurd rfl ((List.nodup_append.mp hnodup).2.2 id hbefore id List.mem_cons_self)

/-- No node is both a picture and an image. -/
theorem nodup_planned (hnodup : t.order.Nodup) :
    ((g.planAssets t).vectorRoots ++ (g.planAssets t).imageNodes).Nodup := by
  have hplanned : Planned g t t.order (g.planAssets t) := planned_planUpTo g t t.order
  have honce := plansOnce_of_nodup (g := g) hnodup
  refine List.nodup_append.mpr ⟨nodup_vectorRoots_of_plansOnce honce,
    nodup_imageNodes_of_plansOnce honce t.order [] (by simp), ?_⟩
  rintro id hvector _ himage rfl
  exact not_becomesVector (hplanned.images id himage).2 (hplanned.roots id hvector).2.1

/-- Nothing that is planned is part of a picture. -/
theorem not_skipped_of_planned
    (hafter : ∀ (a x : NodeId), x ∈ t.descendants a → t.ComesAfter a x) (hnodup : t.order.Nodup)
    {id : NodeId}
    (hid : id ∈ (g.planAssets t).vectorRoots ++ (g.planAssets t).imageNodes) :
    id ∉ (g.planAssets t).skippedIds := by
  intro hskipped
  obtain ⟨before, after, hsplit, hskip⟩ :=
    exists_skipped_place hafter (plansOnce_of_nodup hnodup) hskipped
  have hmem : id ∈ t.order := by
    rw [hsplit]
    simp
  obtain ⟨hvector, himage⟩ :=
    not_planned_of_skipped hsplit (List.count_eq_one_of_mem hnodup hmem) hskip
  rcases List.mem_append.mp hid with h | h
  · exact hvector h
  · exact himage h

/-- The parts of a plan are disjoint and without repetitions just when no node that is planned has a
second place in the order where it would be planned again. -/
theorem planAssets_wellFormed_iff (hg : g.Reachable) (roots : List NodeId) (policy : DepthPolicy) :
    (g.planAssets (g.visibleTree roots policy)).WellFormed ↔
      PlansOnce (g.visibleTree roots policy) (g.planAssets (g.visibleTree roots policy)) :=
  ⟨plansOnce_of_wellFormed, fun honce =>
    { disjoint := disjoint_of_plansOnce
        (fun _ _ => comesAfter_of_mem_descendants hg roots policy) honce
      vectorRoots := nodup_vectorRoots_of_plansOnce honce
      imageNodes := nodup_imageNodes_of_plansOnce honce _ [] (by simp) }⟩

/-! ### A group with one path -/

/-- A group with a path in it. -/
def groupedPath : SceneGraph :=
  (({} : SceneGraph).addRoot { id := ⟨"g"⟩, type := .group }).addNode 0
    { id := ⟨"v"⟩, type := .vector }

theorem reachable_groupedPath : groupedPath.Reachable :=
  (Reachable.empty.addRoot _).addNode (mem_slots_fill (Or.inl (by decide +kernel))) _

/-- The group alone becomes one picture. -/
theorem planAssets_group_wellFormed :
    (groupedPath.planAssets (groupedPath.visibleTree [⟨"g"⟩] {})).WellFormed := by
  refine (planAssets_wellFormed_iff reachable_groupedPath [⟨"g"⟩] {}).mpr ⟨?_, ?_⟩
  · decide +kernel
  · have himages : (groupedPath.planAssets (groupedPath.visibleTree [⟨"g"⟩] {})).imageNodes = [] :=
      by decide +kernel
    rw [himages]
    exact fun _ h => absurd h List.not_mem_nil

/-- With the path selected in front of its group, both are planned, and the path is skipped too. -/
theorem planAssets_path_and_group :
    (groupedPath.planAssets (groupedPath.visibleTree [⟨"v"⟩, ⟨"g"⟩] {})).vectorRoots
        = [⟨"v"⟩, ⟨"g"⟩]
      ∧ (groupedPath.planAssets (groupedPath.visibleTree [⟨"v"⟩, ⟨"g"⟩] {})).skippedIds = [⟨"v"⟩]
      ∧ ¬ (groupedPath.planAssets (groupedPath.visibleTree [⟨"v"⟩, ⟨"g"⟩] {})).WellFormed := by
  refine ⟨by decide +kernel, by decide +kernel, fun h => ?_⟩
  exact h.disjoint ⟨"v"⟩ (by decide +kernel) (by decide +kernel)

end SceneGraph

end SceneCompiler
