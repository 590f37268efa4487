import Mathlib
import SceneCompiler.Proofs.Asset.Plan
import SceneCompiler.Proofs.Tree.Preorder
/-!
# Outermost pictures

A plan asks of each node whether it would make a picture, and not whether it lies inside of one:
only the nodes that are skipped keep it from that. Where no node comes twice this is enough. A node
comes after all that it lies below, so when the walk comes to it, it is skipped just when there is a
picture above it.

* `mem_vectorRoots_iff`, `mem_imageNodes_iff`: all is planned that is not skipped in the end.
* `mem_vectorRoots_plainContainer`: which groups and frames become pictures.
* `count_imageNodes`: which images are planned.
* `plansOutermost_planAssets`: the pictures of a plan are the outermost ones.
-/

namespace SceneCompiler

theorem AssetPlan.nodup_appendNew (new : List NodeId) :
    ∀ {done : List NodeId}, done.Nodup → (appendNew done new).Nodup := by
  induction new with
  | nil => exact fun hdone => hdone
  | cons first rest ih =>
    intro done hdone
    apply ih
    dsimp only
    split
    · exact hdone
    · next hnew =>
      rw [List.contains_iff_mem] at hnew
      exact List.nodup_append.mpr ⟨hdone, by simp, fun x hx y hy heq =>
        hnew (List.mem_singleton.mp hy ▸ heq ▸ hx)⟩

/-- Groups and frames are drawn as pictures only as a whole. -/
theorem inferTag_plainContainer {n : SceneNode} (h : n.type.isPlainContainer) :
    (inferTag n).2 ≠ some .vector := by
  have hgeometry : ¬ n.type.isVectorGeometry := by
    revert h
    cases n.type <;> decide
  unfold inferTag
  rw [if_neg hgeometry]
  split
  · decide
  · split <;> exact Option.some_ne_none _ ∘ Eq.symm

namespace SceneGraph

variable {g : SceneGraph} {t : VisibleTree}

/-! ## Skipped nodes -/

/-- No node is skipped twice, however often it lies below a picture. -/
theorem nodup_skippedIds (g : SceneGraph) (t : VisibleTree) (nodes : List NodeId) :
    (g.planUpTo t nodes).skippedIds.Nodup := by
  induction nodes using List.reverseRecOn with
  | nil => exact List.nodup_nil
  | append_singleton init last ih =>
    rw [planUpTo_concat, planNode_eq]
    split
    · exact ih
    · split
      · exact AssetPlan.nodup_appendNew _ ih
      · split <;> exact ih

theorem mem_skippedIds_iff {id : NodeId} :
    id ∈ (g.planAssets t).skippedIds ↔
      ∃ r ∈ (g.planAssets t).vectorRoots, id ∈ t.descendants r := by
  have hplanned : Planned g t t.order (g.planAssets t) := planned_planUpTo g t t.order
  constructor
  · exact hplanned.skipped id
  · rintro ⟨r, hr, hbelow⟩
    exact (hplanned.roots r hr).2.2 id hbelow

/-! ## Planned nodes -/

/-- The vector pictures are all nodes that would become one and are not skipped in the end. -/
theorem mem_vectorRoots_iff
    (hafter : ∀ (a x : NodeId), x ∈ t.descendants a → t.ComesAfter a x) (hnodup : t.order.Nodup)
    {id : NodeId} : id ∈ (g.planAssets t).vectorRoots ↔
      id ∈ t.order ∧ g.becomesVector t id ∧ id ∉ (g.planAssets t).skippedIds := by
  constructor
  · intro hid
    have hplanned : Planned g t t.order (g.planAssets t) := planned_planUpTo g t t.order
    obtain ⟨hmem, hbecomes, -⟩ := hplanned.roots id hid
    exact ⟨hmem, hbecomes, not_skipped_of_planned hafter hnodup (List.mem_append_left _ hid)⟩
  · rintro ⟨hmem, hbecomes, hskip⟩
    obtain ⟨before, after, hsplit⟩ := List.append_of_mem hmem
    unfold planAssets at hskip ⊢
    rw [hsplit] at hskip ⊢
    -- What is not skipped in the end is not skipped at its place, and is planned there.
    apply mem_of_grows (vectorRoots_grow g t)
    exact vectorRoots_concat hbecomes (not_skipped_before hskip)

/-- So are the images. -/
theorem mem_imageNodes_iff
    (hafter : ∀ (a x : NodeId), x ∈ t.descendants a → t.ComesAfter a x) (hnodup : t.order.Nodup)
    {id : NodeId} : id ∈ (g.planAssets t).imageNodes ↔
      id ∈ t.order ∧ g.becomesImage t id ∧ id ∉ (g.planAssets t).skippedIds := by
  constructor
  · intro hid
    have hplanned : Planned g t t.order (g.planAssets t) := planned_planUpTo g t t.order
    obtain ⟨hmem, hbecomes⟩ := hplanned.images id hid
    exact ⟨hmem, hbecomes, not_skipped_of_planned hafter hnodup (List.mem_append_right _ hid)⟩
  · rintro ⟨hmem, hbecomes, hskip⟩
    obtain ⟨before, after, hsplit⟩ := List.append_of_mem hmem
    unfold planAssets at hskip ⊢
    rw [hsplit] at hskip ⊢
    apply mem_of_grows (imageNodes_grow g t)
    exact imageNodes_concat hbecomes (not_skipped_before hskip)

/-! ## Groups and frames -/

theorem descendants_eq_nil {id : NodeId} (h : t.find? id = none) : t.descendants id = [] := by
  rw [VisibleTree.descendants, VisibleTree.childrenOf, h]
  rfl

/-- Only nodes of the tree are promotable: others have nothing below them that is drawn. -/
theorem isSome_find?_of_isPromotable {id : NodeId} (h : g.isPromotable t id) :
    (t.find? id).isSome := by
  cases hfind : t.find? id with
  | some n => rfl
  | none =>
    unfold isPromotable at h
    split at h
    · cases h
    · simp [descendants_eq_nil hfind] at h

/-- A group or a frame of a tree makes a picture just when it is promotable and kept its
children. -/
theorem becomesVector_plainContainer (hg : g.Reachable) {roots : List NodeId}
    {policy : DepthPolicy} {id : NodeId} {n : SceneNode} {record : VisibleNode}
    (hn : g.find? id = some n) (htype : n.type.isPlainContainer)
    (hrecord : (g.visibleTree roots policy).find? id = some record) :
    g.becomesVector (g.visibleTree roots policy) id ↔
      g.isPromotable (g.visibleTree roots policy) id
        ∧ id ∉ (g.visibleTree roots policy).cappedIds := by
  obtain ⟨-, limit, depth, index, hvisit⟩ := exists_visit_of_sceneNode hg hn hrecord
  have hkind : record.assetKind ≠ some .vector := by
    rw [hvisit]
    exact inferTag_plainContainer htype
  unfold becomesVector
  rw [hrecord, hn]
  simp [hkind, and_comm]

/-! ## Plans -/

variable {roots : List NodeId} {policy : DepthPolicy}

/-- A group or a frame is the root of a picture just when it is promotable, kept its children and
lies below no other root. -/
theorem mem_vectorRoots_plainContainer (hg : g.Reachable)
    (hnodup : (g.visibleTree roots policy).order.Nodup) {id : NodeId} {n : SceneNode}
    (hn : g.find? id = some n) (htype : n.type.isPlainContainer) :
    id ∈ (g.planAssets (g.visibleTree roots policy)).vectorRoots ↔
      g.isPromotable (g.visibleTree roots policy) id
        ∧ id ∉ (g.visibleTree roots policy).cappedIds
        ∧ ∀ r ∈ (g.planAssets (g.visibleTree roots policy)).vectorRoots,
          id ∉ (g.visibleTree roots policy).descendants r := by
  have houter : id ∉ (g.planAssets (g.visibleTree roots policy)).skippedIds ↔
      ∀ r ∈ (g.planAssets (g.visibleTree roots policy)).vectorRoots,
        id ∉ (g.visibleTree roots policy).descendants r := by
    rw [mem_skippedIds_iff]
    simp
  rw [mem_vectorRoots_iff (fun _ _ => comesAfter_of_mem_descendants hg roots policy) hnodup, houter]
  constructor
  · rintro ⟨hmem, hbecomes, hskip⟩
    obtain ⟨record, hrecord, -⟩ := exists_find?_visibleTree hmem
    obtain ⟨hpromotable, hkept⟩ := (becomesVector_plainContainer hg hn htype hrecord).mp hbecomes
    exact ⟨hpromotable, hkept, hskip⟩
  · rintro ⟨hpromotable, hkept, hskip⟩
    obtain ⟨record, hrecord⟩ :=
      Option.isSome_iff_exists.mp (isSome_find?_of_isPromotable hpromotable)
    obtain ⟨hmem, -⟩ := exists_visit_of_sceneNode hg hn hrecord
    have hbecomes :=
      (becomesVector_plainContainer hg hn htype hrecord).mpr ⟨hpromotable, hkept⟩
    exact ⟨hmem, hbecomes, hskip⟩

/-- An image that is no picture and no part of one is planned once. -/
theorem count_imageNodes (hg : g.Reachable) (hnodup : (g.visibleTree roots policy).order.Nodup)
    {id : NodeId} {record : VisibleNode}
    (hrecord : (g.visibleTree roots policy).find? id = some record)
    (hkind : record.assetKind = some .image)
    (hskip : id ∉ (g.planAssets (g.visibleTree roots policy)).skippedIds)
    (hroot : id ∉ (g.planAssets (g.visibleTree roots policy)).vectorRoots) :
    (g.planAssets (g.visibleTree roots policy)).imageNodes.count id = 1 := by
  have hafter : ∀ a x, x ∈ (g.visibleTree roots policy).descendants a →
      (g.visibleTree roots policy).ComesAfter a x :=
    fun _ _ => comesAfter_of_mem_descendants hg roots policy
  obtain ⟨v, hv, rfl, rfl⟩ := exists_visit_of_find? hrecord
  have hmem : v.node.id ∈ (g.visibleTree roots policy).order := List.mem_map_of_mem hv
  have hvector : ¬ g.becomesVector (g.visibleTree roots policy) v.node.id := fun hbecomes =>
    hroot ((mem_vectorRoots_iff hafter hnodup).mpr ⟨hmem, hbecomes, hskip⟩)
  have himage : g.becomesImage (g.visibleTree roots policy) v.node.id := by
    obtain ⟨n, hn⟩ := Option.isSome_iff_exists.mp
      (isSome_find?_of_mem_visits (fun _ _ => hg.id_of_find?) hv)
    unfold becomesImage
    rw [hrecord, hn]
    simp [hvector, hkind]
  apply List.count_eq_one_of_mem
  · exact (List.nodup_append.mp (nodup_planned hnodup)).2.1
  · exact (mem_imageNodes_iff hafter hnodup).mpr ⟨hmem, himage, hskip⟩

/-- The pictures of a plan are the outermost ones, and the plan leaves no image out that is not part
of a picture. -/
structure PlansOutermost (g : SceneGraph) (t : VisibleTree) (p : AssetPlan) : Prop where
  apart : ∀ r ∈ p.vectorRoots, ∀ inner ∈ p.vectorRoots, inner ∉ t.descendants r
  skippedOnce : p.skippedIds.Nodup
  skipped : ∀ id, id ∈ p.skippedIds ↔ ∃ r ∈ p.vectorRoots, id ∈ t.descendants r
  promoted : ∀ id n, g.find? id = some n → n.type.isPlainContainer →
    (id ∈ p.vectorRoots ↔ g.isPromotable t id ∧ id ∉ t.cappedIds
      ∧ ∀ r ∈ p.vectorRoots, id ∉ t.descendants r)
  images : ∀ id record, t.find? id = some record → record.assetKind = some .image →
    id ∉ p.skippedIds → id ∉ p.vectorRoots → p.imageNodes.count id = 1

/-- Without nested roots the pictures of a plan are the outermost ones. -/
theorem plansOutermost_planAssets (hg : g.Reachable) (hapart : g.NamedApart)
    (hroots : g.RootsApart (g.visibleRoots roots) (g.visibleTree roots policy).depthLimit) :
    PlansOutermost g (g.visibleTree roots policy) (g.planAssets (g.visibleTree roots policy)) := by
  have hnodup := (nodup_order_iff hg hapart roots policy).mpr hroots
  constructor
  case apart =>
    intro r hr inner hinner hbelow
    apply disjoint_of_plansOnce (fun _ _ => comesAfter_of_mem_descendants hg roots policy)
      (plansOnce_of_nodup hnodup) inner hinner
    exact mem_skippedIds_iff.mpr ⟨r, hr, hbelow⟩
  case skippedOnce => exact nodup_skippedIds g _ _
  case skipped => exact fun id => mem_skippedIds_iff
  case promoted => exact fun id n hn htype => mem_vectorRoots_plainContainer hg hnodup hn htype
  case images =>
    exact fun id record hrecord hkind hskip hroot =>
      count_imageNodes hg hnodup hrecord hkind hskip hroot

/-! ### A frame with an icon and a photo -/

/-- A frame with a photo next to an icon: a group in a group, with a path and a mask in it. -/
def iconAndPhoto : SceneGraph :=
  (((({} : SceneGraph).addRoot { id := ⟨"f"⟩, type := .frame }).addNode 0
    { id := ⟨"icon"⟩, type := .group }).addNode 0
      { id := ⟨"photo"⟩, type := .rectangle, fills := [.image (some "h") true] }).addNode 1
        { id := ⟨"inner"⟩, type := .group }
    |>.addNode 3 { id := ⟨"path"⟩, type := .vector }
    |>.addNode 3 { id := ⟨"mask"⟩, type := .vector, isMask := true }

theorem reachable_iconAndPhoto : iconAndPhoto.Reachable := by
  refine (((Reachable.empty.addRoot _).addNode ?_ _).addNode ?_ _).addNode ?_ _
    |>.addNode ?_ _ |>.addNode ?_ _
  all_goals
    rw [Std.ExtTreeMap.mem_iff_contains]
    decide +kernel

/-- The outer group becomes the picture, and all below it is skipped. -/
theorem plansOutermost_iconAndPhoto :
    PlansOutermost iconAndPhoto (iconAndPhoto.visibleTree [⟨"f"⟩] {})
        (iconAndPhoto.planAssets (iconAndPhoto.visibleTree [⟨"f"⟩] {}))
      ∧ iconAndPhoto.planAssets (iconAndPhoto.visibleTree [⟨"f"⟩] {})
        = { vectorRoots := [⟨"icon"⟩]
            skippedIds := [⟨"inner"⟩, ⟨"path"⟩, ⟨"mask"⟩]
            imageNodes := [⟨"photo"⟩] }
      ∧ iconAndPhoto.isPromotable (iconAndPhoto.visibleTree [⟨"f"⟩] {}) ⟨"inner"⟩ := by
  have hapart : iconAndPhoto.NamedApart := namedApart_of_nodup (by decide +kernel)
  have hroots := (nodup_order_iff reachable_iconAndPhoto hapart [⟨"f"⟩] {}).mp (by decide +kernel)
  refine ⟨plansOutermost_planAssets reachable_iconAndPhoto hapart hroots, ?_, ?_⟩
  · decide +kernel
  · decide +kernel

end SceneGraph

end SceneCompiler
