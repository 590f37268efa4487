import Mathlib
import SceneCompiler.Markup.Build
import SceneCompiler.Proofs.Asset.Plan
import SceneCompiler.Proofs.Markup.Classes
import SceneCompiler.Proofs.Tree.Preorder
/-!
# Elements of nodes

The element of a node has the class of the node, and no other element of the markup has a class.
What is part of a vector picture lies below its root with everything below itself, so leaving it out
takes whole subtrees away: the elements with a class come in the order of the tree, each inside the
element of its parent.

* `classed_nodeElement`: the element of a node.
* `classed_elements`: the elements of some nodes and all below them.
* `presents_visibleTree`: the markup of the tree of a scene.
-/

namespace SceneCompiler

namespace ComponentNode

/-! ## Elements with a class -/

mutual

/-- The elements of a node that have a class, in document order: the class of the nearest element
around each that has one, and its own. -/
def classed (around : Option String) : ComponentNode → List (Option String × String)
  | .text _ => []
  | .element _ attributes children _ =>
    match attributes["class"]? with
    | some c => (around, c) :: listClassed (some c) children
    | none => listClassed around children

def listClassed (around : Option String) : List ComponentNode → List (Option String × String)
  | [] => []
  | n :: rest => classed around n ++ listClassed around rest

end

theorem listClassed_eq_flatMap (around : Option String) (nodes : List ComponentNode) :
    listClassed around nodes = nodes.flatMap (classed around) := by
  induction nodes with
  | nil => rfl
  | cons n rest ih => rw [listClassed, ih, List.flatMap_cons]

theorem listClassed_append (around : Option String) (nodes others : List ComponentNode) :
    listClassed around (nodes ++ others)
      = listClassed around nodes ++ listClassed around others := by
  simp only [listClassed_eq_flatMap, List.flatMap_append]

theorem classed_element {attributes : TextMap} {c : String} (h : attributes["class"]? = some c)
    (around : Option String) (tag : String) (children : List ComponentNode) (raw : Option String) :
    classed around (.element tag attributes children raw)
      = (around, c) :: listClassed (some c) children := by
  rw [classed, h]

/-! ## Texts -/

/-- No element of the node has a class. -/
def Unclassed (n : ComponentNode) : Prop :=
  ∀ around, classed around n = []

theorem listClassed_of_unclassed {nodes : List ComponentNode} (h : ∀ n ∈ nodes, n.Unclassed)
    (around : Option String) : listClassed around nodes = [] := by
  rw [listClassed_eq_flatMap, List.flatMap_eq_nil_iff]
  exact fun n hn => h n hn around

theorem unclassed_element {attributes : TextMap} {children : List ComponentNode}
    (hclass : attributes["class"]? = none) (hchildren : ∀ n ∈ children, n.Unclassed) (tag : String)
    (raw : Option String) : (ComponentNode.element tag attributes children raw).Unclassed := by
  intro around
  rw [classed, hclass]
  exact listClassed_of_unclassed hchildren around

theorem unclassed_text (s : String) : (ComponentNode.text s).Unclassed :=
  fun _ => by rw [classed]

theorem unclassed_plain {children : List ComponentNode} (h : ∀ n ∈ children, n.Unclassed)
    (tag : String) : (plain tag children).Unclassed :=
  unclassed_element Std.ExtTreeMap.getElem?_empty h tag none

theorem unclassed_wrapIf {inner : ComponentNode} (h : inner.Unclassed) (mark : Bool)
    (tag : String) : (wrapIf mark tag inner).Unclassed := by
  unfold wrapIf
  split
  · exact unclassed_plain (List.forall_mem_singleton.mpr h) tag
  · exact h

/-- An element around one node, with an attribute that is no class. -/
theorem unclassed_around {inner : ComponentNode} (h : inner.Unclassed) {attributes : TextMap}
    (hclass : attributes["class"]? = none) (tag : String) :
    (ComponentNode.element tag attributes [inner] none).Unclassed :=
  unclassed_element hclass (List.forall_mem_singleton.mpr h) tag none

/-- An attribute of another name. -/
theorem class_insert {name : String} (hname : name ≠ "class") (attributes : TextMap)
    (value : String) : (attributes.insert name value)["class"]? = attributes["class"]? := by
  rw [Std.ExtTreeMap.getElem?_insert, if_neg (by rwa [Std.compare_eq_iff_eq])]

theorem unclassed_ofRun (base : TextMap) (r : TextRun) : (ofRun base r).Unclassed := by
  unfold ofRun
  extract_lets marked style styled
  have hmarked : marked.Unclassed := by
    iterate 5 refine unclassed_wrapIf ?_ _ _
    exact unclassed_text r.text
  have hstyled : styled.Unclassed := by
    unfold styled
    split
    · exact hmarked
    · refine unclassed_around hmarked ?_ "span"
      rw [class_insert (by decide), Std.ExtTreeMap.getElem?_empty]
  split
  · exact hstyled
  · next address _ =>
    have hhref : ((∅ : TextMap).insert "href" address)["class"]? = none := by
      rw [class_insert (by decide), Std.ExtTreeMap.getElem?_empty]
    refine unclassed_around hstyled ?_ "a"
    split
    · rw [class_insert (by decide), hhref]
    · exact hhref

theorem unclassed_ofLine (base : TextMap) (line : TextLine) :
    ∀ n ∈ ofLine base line, n.Unclassed := by
  intro n hn
  obtain ⟨r, -, rfl⟩ := List.mem_map.mp hn
  exact unclassed_ofRun base r

theorem mem_or_mem_of_mem_intercalate {α : Type} {a : α} {separator : List α}
    {parts : List (List α)} (h : a ∈ List.intercalate separator parts) :
    a ∈ separator ∨ ∃ part ∈ parts, a ∈ part := by
  induction parts with
  | nil => cases h
  | cons first rest ih =>
    cases rest with
    | nil =>
      rw [List.intercalate_singleton] at h
      exact Or.inr ⟨first, List.mem_singleton_self _, h⟩
    | cons second others =>
      rw [List.intercalate_cons_cons, List.append_assoc, List.mem_append, List.mem_append] at h
      rcases h with hfirst | hseparator | hlater
      · exact Or.inr ⟨first, List.mem_cons_self, hfirst⟩
      · exact Or.inl hseparator
      · refine (ih hlater).imp_right fun ⟨part, hpart, ha⟩ => ?_
        exact ⟨part, List.mem_cons_of_mem _ hpart, ha⟩

theorem unclassed_ofParagraph (base : TextMap) (lines : List TextLine) :
    ∀ n ∈ ofParagraph base lines, n.Unclassed := by
  intro n hn
  rcases mem_or_mem_of_mem_intercalate hn with hbreak | ⟨part, hpart, hn⟩
  · obtain rfl := List.mem_singleton.mp hbreak
    exact unclassed_plain (by simp) "br"
  · obtain ⟨line, -, rfl⟩ := List.mem_map.mp hpart
    exact unclassed_ofLine base line n hn

theorem unclassed_ofBlock (base : TextMap) (b : TextBlock) : (ofBlock base b).Unclassed := by
  have hitems : ∀ n ∈ b.lines.map fun line => plain "li" (ofLine base line), n.Unclassed := by
    intro n hn
    obtain ⟨line, -, rfl⟩ := List.mem_map.mp hn
    exact unclassed_plain (unclassed_ofLine base line) "li"
  unfold ofBlock
  cases b.kind with
  | none => exact unclassed_plain (unclassed_ofParagraph base b.lines) "p"
  | ordered => exact unclassed_plain hitems "ol"
  | unordered => exact unclassed_plain hitems "ul"

theorem unclassed_ofBlocks (tag : Tag) (blocks : List TextBlock) :
    ∀ n ∈ (ofBlocks tag blocks).2, n.Unclassed := by
  unfold ofBlocks
  dsimp only
  split
  · simp
  · exact unclassed_ofParagraph _ _
  · intro n hn
    obtain ⟨b, -, rfl⟩ := List.mem_map.mp hn
    exact unclassed_ofBlock _ b

end ComponentNode

namespace MarkupSource

open ComponentNode

variable {m : MarkupSource}

/-! ## One node -/

/-- The class of the element of a node. -/
def classOf (m : MarkupSource) (id : NodeId) : String :=
  m.classes.getD id ""

/-- The attributes for hints of a node are no classes. -/
theorem getElem?_nodeAttributes (m : MarkupSource) (n : VisibleNode) (attributes : TextMap) :
    (m.nodeAttributes n attributes)["class"]? = some (m.classOf n.id) := by
  have hhints : n.hints.toList.reverse.find? (fun hint => "data-" ++ hint.1 = "class") = none := by
    rw [List.find?_eq_none]
    intro hint _ heq
    have hchars := congrArg String.toList (of_decide_eq_true heq)
    simp at hchars
  unfold nodeAttributes
  rw [getElem?_foldl_insert (fun hint : String × String => "data-" ++ hint.1) (fun hint => hint.2),
    hhints, Option.map_none, Option.none_or, Std.ExtTreeMap.getElem?_insert_self, classOf]

theorem classed_pictureElement (m : MarkupSource) (n : VisibleNode) (around : Option String) :
    classed around (m.pictureElement n) = [(around, m.classOf n.id)] := by
  have hclass : ((∅ : TextMap).insert "class" (m.classes.getD n.id ""))["class"]?
      = some (m.classOf n.id) := Std.ExtTreeMap.getElem?_insert_self
  unfold pictureElement
  dsimp only
  split
  · refine classed_element ?_ around "img" [] none
    rw [class_insert (by decide), class_insert (by decide), hclass]
  · exact classed_element hclass around "div" [] _
  · exact classed_element hclass around "div" [] none

/-- The texts of a node have no classes. -/
theorem unclassed_nodeContent (m : MarkupSource) (n : VisibleNode) :
    ∀ own ∈ (m.nodeContent n).2.2, own.Unclassed := by
  unfold nodeContent
  cases n.tag with
  | img => dsimp only; split <;> simp
  | p => exact unclassed_ofBlocks _ _
  | span => exact unclassed_ofBlocks _ _
  | div => simp
  | svg => simp

/-- The element of any other node has the class of the node, and the texts in it have none. -/
theorem classed_nodeElement (m : MarkupSource) (n : VisibleNode) (around : Option String)
    (below : List ComponentNode) :
    classed around (.element (m.nodeContent n).1 (m.nodeAttributes n (m.nodeContent n).2.1)
        ((m.nodeContent n).2.2 ++ below) none)
      = (around, m.classOf n.id) :: listClassed (some (m.classOf n.id)) below := by
  rw [classed_element (getElem?_nodeAttributes m n _), listClassed_append,
    listClassed_of_unclassed (unclassed_nodeContent m n), List.nil_append]

/-! ## Nodes that are part of a picture -/

/-- Just what lies below a vector picture is part of it. -/
def Absorbs (t : VisibleTree) (p : AssetPlan) : Prop :=
  ∀ id, p.isSkipped id ↔ ∃ r, p.isVectorRoot r ∧ id ∈ t.descendants r

theorem isSkipped_of_mem_childrenOf (ht : m.tree.Arranged) (hplan : Absorbs m.tree m.plan)
    {p c : NodeId} (hc : c ∈ m.tree.childrenOf p)
    (hp : m.plan.isSkipped p ∨ m.plan.isVectorRoot p) : m.plan.isSkipped c := by
  rcases hp with hp | hp
  · obtain ⟨r, hr, hbelow⟩ := (hplan p).mp hp
    exact (hplan c).mpr ⟨r, hr, ht.below r p c hbelow hc⟩
  · exact (hplan c).mpr ⟨p, hp, ht.children p c hc⟩

/-- Of what lies below a picture, or below a part of one, nothing is left. -/
theorem filter_below_eq_nil (ht : m.tree.Arranged) (hplan : Absorbs m.tree m.plan) {p : NodeId}
    (hp : m.plan.isSkipped p ∨ m.plan.isVectorRoot p) (fuel : Nat) :
    ((m.tree.childrenOf p).flatMap (m.tree.subtree fuel)).filter (fun id => !m.plan.isSkipped id)
      = [] := by
  induction fuel generalizing p with
  | zero => simp [VisibleTree.subtree]
  | succ fuel ih =>
    rw [List.filter_flatMap, List.flatMap_eq_nil_iff]
    intro c hc
    have hskip := isSkipped_of_mem_childrenOf ht hplan hc hp
    rw [VisibleTree.subtree, List.filter_cons_of_neg (by simp [hskip]), ih (Or.inl hskip)]

/-! ## All nodes -/

/-- What stands for a node among the elements with a class. -/
def entry (m : MarkupSource) (id : NodeId) : Option String × String :=
  ((m.tree.parentOf? id).map m.classOf, m.classOf id)

/-- The elements of some siblings and all below them: one for each node that is part of no
picture. -/
theorem classed_elements (ht : m.tree.Arranged) (hplan : Absorbs m.tree m.plan) (fuel : Nat)
    {ids : List NodeId} {around : Option String}
    (hids : ∀ id ∈ ids, id ∈ m.tree.order ∧ (m.tree.parentOf? id).map m.classOf = around) :
    listClassed around (m.elements fuel ids)
      = ((ids.flatMap (m.tree.subtree fuel)).filter fun id =>
          !m.plan.isSkipped id).map m.entry := by
  induction fuel generalizing ids around with
  | zero => simp [elements, listClassed, VisibleTree.subtree]
  | succ fuel ih =>
    rw [listClassed_eq_flatMap, elements, List.filterMap_eq_flatMap_toList, List.flatMap_assoc,
      List.filter_flatMap, List.map_flatMap]
    refine List.flatMap_congr fun id hid => ?_
    obtain ⟨hmem, hparent⟩ := hids id hid
    obtain ⟨n, hn, rfl⟩ := ht.recorded id hmem
    by_cases hskip : m.plan.isSkipped n.id
    · rw [VisibleTree.subtree, List.filter_cons_of_neg (by simp [hskip]),
        filter_below_eq_nil ht hplan (Or.inl hskip)]
      simp [hskip]
    · have hentry : m.entry n.id = (around, m.classOf n.id) := by rw [entry, hparent]
      have hchildren : m.tree.childrenOf n.id = n.children := VisibleTree.childrenOf_of_find? hn
      rw [VisibleTree.subtree, List.filter_cons_of_pos (by simp [hskip]), List.map_cons, hentry,
        if_neg hskip, hn, Option.map_some, Option.toList_some, List.flatMap_singleton]
      split
      · next hroot =>
        rw [classed_pictureElement, filter_below_eq_nil ht hplan (Or.inr hroot), List.map_nil]
      · rw [classed_nodeElement, hchildren, ih fun c hc => ?_]
        obtain ⟨hc, hp⟩ := ht.child n.id c (by rwa [hchildren])
        exact ⟨hc, by rw [hp, Option.map_some]⟩

/-! ## The markup of a tree -/

/-- The markup has one element for each node of the tree that is part of no vector picture. -/
structure Presents (m : MarkupSource) : Prop where
  /-- In document order the elements with a class are those of the nodes in the order of the tree,
  each inside the element of its parent. -/
  elements : listClassed none m.component.roots
    = (m.tree.order.filter fun id => !m.plan.isSkipped id).map m.entry
  /-- The parent of a node that has an element has one. -/
  nested : ∀ id ∈ m.tree.order, ¬ m.plan.isSkipped id → ∀ p ∈ m.tree.parentOf? id,
    p ∈ m.tree.order ∧ ¬ m.plan.isSkipped p
  /-- Each of them has one element, and what is part of a picture has none. -/
  once : ∀ id ∈ m.tree.order,
    ((listClassed none m.component.roots).map Prod.snd).count (m.classOf id)
      = if m.plan.isSkipped id then 0 else 1
  absorbed : Absorbs m.tree m.plan

theorem classOf_injOn (ht : m.tree.Arranged) (hclasses : m.classes = m.tree.classNames) :
    ∀ id ∈ m.tree.order, ∀ id' ∈ m.tree.order, m.classOf id = m.classOf id' → id = id' := by
  have hclass : ∀ id ∈ m.tree.order, m.tree.classNames[id]? = some (m.classOf id) := by
    intro id hid
    obtain ⟨n, hn, hname⟩ := ht.recorded id hid
    obtain ⟨c, hc⟩ := exists_class hid hn hname
    rw [hc, classOf, hclasses, Std.ExtTreeMap.getD_eq_getD_getElem?, hc, Option.getD_some]
  intro id hid id' hid' heq
  exact classNames_inj (hclass id hid) (heq ▸ hclass id' hid')

theorem presents_of_arranged (ht : m.tree.Arranged) (hplan : Absorbs m.tree m.plan)
    (hclasses : m.classes = m.tree.classNames) : m.Presents := by
  have helements : listClassed none m.component.roots
      = (m.tree.order.filter fun id => !m.plan.isSkipped id).map m.entry := by
    rw [ht.preorder]
    refine classed_elements ht hplan m.tree.nodes.size fun r hr => ?_
    obtain ⟨hmem, hparent⟩ := ht.root r hr
    exact ⟨hmem, by rw [hparent, Option.map_none]⟩
  constructor
  case elements => exact helements
  case nested =>
    intro id _ hkept p hp
    have hchild : id ∈ m.tree.childrenOf p := by simpa using List.find?_some hp
    exact ⟨List.mem_of_find?_eq_some hp,
      fun hskip => hkept (isSkipped_of_mem_childrenOf ht hplan hchild (Or.inl hskip))⟩
  case once =>
    intro id hid
    have hinj := classOf_injOn ht hclasses
    have hsnd : Prod.snd ∘ m.entry = m.classOf := rfl
    rw [helements, List.map_map, hsnd]
    split
    · next hskip =>
      refine List.count_eq_zero_of_not_mem fun hmem => ?_
      obtain ⟨other, hother, heq⟩ := List.mem_map.mp hmem
      obtain ⟨hmem, hkept⟩ := List.mem_filter.mp hother
      rw [hinj other hmem id hid heq, hskip] at hkept
      cases hkept
    · next hkept =>
      refine List.count_eq_one_of_mem (List.Nodup.map_on ?_ (ht.once.filter _)) ?_
      · exact fun a ha b hb => hinj a (List.mem_of_mem_filter ha) b (List.mem_of_mem_filter hb)
      · exact List.mem_map_of_mem (List.mem_filter.mpr ⟨hid, by simpa using hkept⟩)
  case absorbed => exact hplan

end MarkupSource

namespace SceneGraph

open MarkupSource

/-- The plan of a tree makes everything below a vector picture part of it, and nothing else. -/
theorem absorbs_planAssets (g : SceneGraph) (t : VisibleTree) : Absorbs t (g.planAssets t) := by
  have hplanned : Planned g t t.order (g.planAssets t) := planned_planUpTo g t t.order
  intro id
  unfold AssetPlan.isSkipped AssetPlan.isVectorRoot
  simp only [List.contains_iff_mem]
  exact ⟨hplanned.skipped id, fun ⟨r, hr, hbelow⟩ => (hplanned.roots r hr).2.2 id hbelow⟩

/-- What the markup of a selection is made from, with its pictures and texts. -/
def markupSource (g : SceneGraph) (roots : List NodeId) (policy : DepthPolicy)
    (assets : Std.ExtTreeMap NodeId AssetReference)
    (texts : Std.ExtTreeMap NodeId (List TextBlock)) : MarkupSource :=
  let tree := g.visibleTree roots policy
  { tree, classes := tree.classNames, plan := g.planAssets tree, assets, texts }

/-- Without nested roots the markup of a selection has one element for each node of its tree that is
part of no vector picture, whatever became of its pictures and texts. -/
theorem presents_visibleTree {g : SceneGraph} (hg : g.Reachable) (hapart : g.NamedApart)
    {roots : List NodeId} {policy : DepthPolicy}
    (hroots : g.RootsApart (g.visibleRoots roots) (g.visibleTree roots policy).depthLimit)
    (assets : Std.ExtTreeMap NodeId AssetReference)
    (texts : Std.ExtTreeMap NodeId (List TextBlock)) :
    (g.markupSource roots policy assets texts).Presents :=
  presents_of_arranged (arranged_visibleTree hg hapart hroots) (absorbs_planAssets g _) rfl

/-! ### A frame with an icon and a label -/

/-- A frame with a text next to a group that has a path in it. -/
def iconAndLabel : SceneGraph :=
  ((({} : SceneGraph).addRoot { id := ⟨"f"⟩, type := .frame, name := "Row" }).addNode 0
    { id := ⟨"g"⟩, type := .group, name := "Icon" }).addNode 0
      { id := ⟨"t"⟩, type := .text, name := "Label" } |>.addNode 1
        { id := ⟨"v"⟩, type := .vector, name := "Path" }

theorem reachable_iconAndLabel : iconAndLabel.Reachable := by
  refine ((Reachable.empty.addRoot _).addNode ?_ _).addNode ?_ _ |>.addNode ?_ _
  all_goals
    rw [Std.ExtTreeMap.mem_iff_contains]
    decide +kernel

/-- The path is part of the picture that its group becomes. -/
theorem presents_iconAndLabel :
    (iconAndLabel.markupSource [⟨"f"⟩] {} ∅ ∅).Presents
      ∧ (iconAndLabel.visibleTree [⟨"f"⟩] {}).order = [⟨"f"⟩, ⟨"g"⟩, ⟨"v"⟩, ⟨"t"⟩]
      ∧ ComponentNode.listClassed none (iconAndLabel.markupSource [⟨"f"⟩] {} ∅ ∅).component.roots
        = [(none, "row"), (some "row", "icon"), (some "row", "label")] := by
  have hapart : iconAndLabel.NamedApart := namedApart_of_nodup (by decide +kernel)
  have hroots := (nodup_order_iff reachable_iconAndLabel hapart [⟨"f"⟩] {}).mp (by decide +kernel)
  refine ⟨presents_visibleTree reachable_iconAndLabel hapart hroots ∅ ∅, ?_, ?_⟩
  · decide +kernel
  · decide +kernel

end SceneGraph

end SceneCompiler
