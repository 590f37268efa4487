import Mathlib
import SceneCompiler.Markup.Render
import SceneCompiler.Proofs.Markup.Elements
/-!
# Places of elements in the written markup

An element is written as a block at the depth where it stands, or in the line of an element that has
nothing but inline children. In a line raw markup is not written. Elements that are written alike in
both ways occur in the markup wherever they stand, and the others where every element around them is
written with its children as blocks.

* `Within.infix_renderLines`: elements that are written in one way.
* `Within.exists_infix_renderLines`: elements that stand among blocks.
* `within_component`: the element of a node stands in the component, and what is around it.
* `around_hasBlocks`: the elements around a vector picture have their children as blocks, unless it
  is written in a line.
* `renderInline_infix_render`: what is written in a line is written without markup.
* `infix_picture_url`, `infix_picture_inlined`, `infix_picture_inLine`, `infix_picture_none`: vector
  pictures as written.
* `infix_image`: images without children as written.
-/

namespace SceneCompiler

namespace ComponentNode

/-! ## Elements inside of others -/

/-- The node is one of some nodes, or stands inside of one of them: in elements whose children are
written, each of which satisfies a condition on its tag and its children. -/
inductive Within (P : String → List ComponentNode → Prop) (e : ComponentNode) :
    List ComponentNode → Prop where
  | here {nodes : List ComponentNode} : e ∈ nodes → Within P e nodes
  | inside {nodes children : List ComponentNode} {tag : String} {attributes : TextMap} :
    .element tag attributes children none ∈ nodes → P tag children → Within P e children →
      Within P e nodes

/-- The element is no void one. -/
def HasContent (tag : String) (_ : List ComponentNode) : Prop :=
  voidTags.contains tag = false

/-- The children of the element are written as blocks. -/
def HasBlocks (tag : String) (children : List ComponentNode) : Prop :=
  voidTags.contains tag = false ∧ children.all isInline = false

variable {P : String → List ComponentNode → Prop} {e : ComponentNode} {nodes : List ComponentNode}

theorem Within.mono {others : List ComponentNode} (h : Within P e nodes) (hsub : nodes ⊆ others) :
    Within P e others := by
  cases h with
  | here hmem => exact .here (hsub hmem)
  | inside hmem hP hinside => exact .inside (hsub hmem) hP hinside

/-! ## Written elements -/

theorem renderInlines_eq_flatMap (nodes : List ComponentNode) :
    renderInlines nodes = nodes.flatMap renderInline := by
  induction nodes with
  | nil => rfl
  | cons n rest ih => rw [renderInlines, ih, List.flatMap_cons]

theorem renderLines_eq_flatMap (depth : Nat) (nodes : List ComponentNode) :
    renderLines depth nodes
      = nodes.flatMap fun n => indentation depth ++ render depth n ++ ['\n'] := by
  induction nodes with
  | nil => rfl
  | cons n rest ih =>
    rw [renderLines, ih, List.flatMap_cons, List.append_assoc _ ['\n'], List.singleton_append]

theorem renderLines_infix_append (depth : Nat) (before nodes : List ComponentNode) :
    renderLines depth nodes <:+: renderLines depth (before ++ nodes) := by
  rw [renderLines_eq_flatMap, renderLines_eq_flatMap, List.flatMap_append]
  exact (List.suffix_append _ _).isInfix

theorem infix_renderInlines (h : e ∈ nodes) : renderInline e <:+: renderInlines nodes := by
  rw [renderInlines_eq_flatMap]
  exact List.infix_of_mem_flatten (List.mem_map_of_mem h)

theorem infix_renderLines (depth : Nat) (h : e ∈ nodes) :
    render depth e <:+: renderLines depth nodes := by
  have hline : indentation depth ++ render depth e ++ ['\n'] <:+: renderLines depth nodes := by
    rw [renderLines_eq_flatMap]
    exact List.infix_of_mem_flatten (List.mem_map_of_mem h)
  exact List.IsInfix.trans ⟨_, _, rfl⟩ hline

/-- In a line the children are written in a line. -/
theorem renderInlines_infix_element {tag : String} (hcontent : voidTags.contains tag = false)
    (attributes : TextMap) (children : List ComponentNode) (raw : Option String) :
    renderInlines children <:+: renderInline (.element tag attributes children raw) := by
  rw [renderInline, hcontent, if_neg Bool.false_ne_true]
  exact ⟨_, _, List.append_assoc _ _ _⟩

/-- A block has its children as inline ones if they all are. -/
theorem renderInlines_infix_block {tag : String} {children : List ComponentNode}
    (hcontent : voidTags.contains tag = false) (hinline : children.all isInline = true)
    (depth : Nat) (attributes : TextMap) :
    renderInlines children <:+: render depth (.element tag attributes children none) := by
  rw [render, hcontent, if_neg Bool.false_ne_true, if_pos hinline]
  exact ⟨_, _, List.append_assoc _ _ _⟩

/-- And as blocks if they are not. -/
theorem renderLines_infix_block {tag : String} {children : List ComponentNode}
    (h : HasBlocks tag children) (depth : Nat) (attributes : TextMap) :
    renderLines (depth + 1) children
      <:+: render depth (.element tag attributes children none) := by
  rw [render, h.1, if_neg Bool.false_ne_true, h.2, if_neg Bool.false_ne_true]
  refine ⟨openTag tag attributes ++ ['\n'], indentation depth ++ closeTag tag, ?_⟩
  simp only [List.append_assoc, List.cons_append, List.nil_append]

/-- So a block has what its children have in the way in which they are written. -/
theorem infix_block {written : List Char} {tag : String} {children : List ComponentNode}
    (hcontent : voidTags.contains tag = false)
    (hline : children.all isInline = true → written <:+: renderInlines children)
    (hblocks : children.all isInline = false → ∀ depth, written <:+: renderLines depth children)
    (depth : Nat) (attributes : TextMap) :
    written <:+: render depth (.element tag attributes children none) := by
  cases hinline : children.all isInline with
  | true => exact (hline hinline).trans (renderInlines_infix_block hcontent hinline _ _)
  | false =>
    exact (hblocks hinline (depth + 1)).trans (renderLines_infix_block ⟨hcontent, hinline⟩ _ _)

theorem Within.infix_renderInlines (h : Within HasContent e nodes) :
    renderInline e <:+: renderInlines nodes := by
  induction h with
  | here hmem => exact ComponentNode.infix_renderInlines hmem
  | @inside _ children _ attributes hmem hcontent _ ih =>
    have helement := renderInlines_infix_element hcontent attributes children none
    exact (ih.trans helement).trans (ComponentNode.infix_renderInlines hmem)

/-- An element that is written in one way, as a block and in a line, is written where it stands. -/
theorem Within.infix_renderLines {written : List Char} (h : Within HasContent e nodes)
    (hblock : ∀ depth, render depth e = written) (hline : renderInline e = written) (depth : Nat) :
    written <:+: renderLines depth nodes := by
  induction h generalizing depth with
  | here hmem =>
    have hwritten := ComponentNode.infix_renderLines depth hmem
    rwa [hblock] at hwritten
  | inside hmem hcontent hinside ih =>
    have hinlines := hinside.infix_renderInlines
    rw [hline] at hinlines
    exact (infix_block hcontent (fun _ => hinlines) (fun _ => ih) depth _).trans
      (ComponentNode.infix_renderLines depth hmem)

/-- An element among blocks is written as one, at some depth. -/
theorem Within.exists_infix_renderLines (h : Within HasBlocks e nodes) (depth : Nat) :
    ∃ depth', render depth' e <:+: renderLines depth nodes := by
  induction h generalizing depth with
  | here hmem => exact ⟨depth, ComponentNode.infix_renderLines depth hmem⟩
  | @inside _ _ _ attributes hmem hblocks _ ih =>
    obtain ⟨depth', hwritten⟩ := ih (depth + 1)
    have hblock := renderLines_infix_block hblocks depth attributes
    refine ⟨depth', (hwritten.trans hblock).trans ?_⟩
    exact ComponentNode.infix_renderLines depth hmem

/-- Images are written in one way. -/
theorem infix_render_img {t : ComponentTree} {attributes : TextMap}
    (h : Within HasContent (.element "img" attributes [] none) t.roots) :
    openTag "img" attributes <:+: t.render.toList := by
  unfold ComponentTree.render
  rw [String.toList_ofList]
  refine h.infix_renderLines (fun depth => ?_) ?_ 0
  · simp [render, voidTags]
  · simp [renderInline, voidTags]

/-- So are divisions with nothing inside. -/
theorem infix_render_div {t : ComponentTree} {attributes : TextMap}
    (h : Within HasContent (.element "div" attributes [] none) t.roots) :
    openTag "div" attributes ++ closeTag "div" <:+: t.render.toList := by
  unfold ComponentTree.render
  rw [String.toList_ofList]
  refine h.infix_renderLines (fun depth => ?_) ?_ 0
  · simp [render, voidTags, renderInlines]
  · simp [renderInline, voidTags, renderInlines]

end ComponentNode

namespace VisibleTree.Arranged

variable {t : VisibleTree}

/-! ## Below a node -/

/-- What children lead to lies below a node, as far as any fuel lasts. -/
theorem mem_descendants (ht : t.Arranged) {a x : NodeId} (fuel : Nat) :
    ∀ b, (∀ c ∈ t.childrenOf b, c ∈ t.descendants a) →
      x ∈ (t.childrenOf b).flatMap (t.subtree fuel) → x ∈ t.descendants a := by
  induction fuel with
  | zero =>
    intro b _ hx
    simp [subtree] at hx
  | succ fuel ih =>
    intro b hb hx
    obtain ⟨c, hc, hx⟩ := List.mem_flatMap.mp hx
    rw [subtree] at hx
    rcases List.mem_cons.mp hx with rfl | hx
    · exact hb _ hc
    · exact ih c (fun c' hc' => ht.below a c c' (hb c hc) hc') hx

theorem descendants_trans (ht : t.Arranged) {a b x : NodeId} (hb : b ∈ t.descendants a)
    (hx : x ∈ t.descendants b) : x ∈ t.descendants a :=
  ht.mem_descendants t.nodes.size b (fun c hc => ht.below a b c hb hc) hx

/-- What lies below a node is a child of the node or of something below it. -/
theorem exists_parent (ht : t.Arranged) {a x : NodeId} (h : x ∈ t.descendants a) :
    ∃ p, x ∈ t.childrenOf p ∧ (p = a ∨ p ∈ t.descendants a) := by
  suffices hfuel : ∀ (fuel : Nat) (b : NodeId), (b = a ∨ b ∈ t.descendants a) →
      x ∈ (t.childrenOf b).flatMap (t.subtree fuel) →
        ∃ p, x ∈ t.childrenOf p ∧ (p = a ∨ p ∈ t.descendants a) from
    hfuel t.nodes.size a (Or.inl rfl) h
  intro fuel
  induction fuel with
  | zero =>
    intro b _ hx
    simp [subtree] at hx
  | succ fuel ih =>
    intro b hb hx
    obtain ⟨c, hc, hx⟩ := List.mem_flatMap.mp hx
    rw [subtree] at hx
    rcases List.mem_cons.mp hx with rfl | hx
    · exact ⟨b, hc, hb⟩
    · refine ih c (Or.inr ?_) hx
      rcases hb with rfl | hb
      · exact ht.children b c hc
      · exact ht.below a b c hb hc

end VisibleTree.Arranged

namespace MarkupSource

open ComponentNode

variable {m : MarkupSource}

/-! ## Tags of nodes -/

theorem fst_ofBlocks (tag : Tag) (blocks : List TextBlock) :
    (ofBlocks tag blocks).1 = tag.name ∨ (ofBlocks tag blocks).1 = "div" := by
  unfold ofBlocks
  dsimp only
  split
  · exact Or.inl rfl
  · exact Or.inl rfl
  · exact Or.inr rfl

/-- Only empty texts become inline elements. -/
theorem tag_of_inline {n : VisibleNode} (h : inlineTags.contains (m.nodeContent n).1 = true) :
    n.tag = .span := by
  unfold nodeContent at h
  cases htag : n.tag with
  | span => rfl
  | div => simp [htag, inlineTags] at h
  | svg => simp [htag, inlineTags] at h
  | img =>
    rw [htag] at h
    dsimp only at h
    split at h <;> simp [inlineTags] at h
  | p =>
    rw [htag] at h
    dsimp only at h
    rcases fst_ofBlocks .p (m.texts.getD n.id []) with heq | heq <;> rw [heq] at h <;>
      simp [inlineTags, Tag.name] at h

/-- The element of the node has its children in its line: its texts and its children are all inline,
and no child is a picture. -/
def IsLine (m : MarkupSource) (n : VisibleNode) : Prop :=
  (m.nodeContent n).2.2.all isInline = true
    ∧ ∀ c ∈ n.children, ¬ m.plan.isVectorRoot c ∧ ∃ child, m.tree.find? c = some child
      ∧ inlineTags.contains (m.nodeContent child).1 = true

/-- The node is written in a line: below a child of a node that has its children in its line. -/
def InLine (m : MarkupSource) (x : NodeId) : Prop :=
  ∃ n c, m.tree.find? n.id = some n ∧ c ∈ n.children ∧ x ∈ m.tree.descendants c ∧ m.IsLine n

/-- So only what lies below an empty text is written in a line. -/
theorem InLine.exists_emptyText {x : NodeId} (h : m.InLine x) :
    ∃ c n, x ∈ m.tree.descendants c ∧ m.tree.find? c = some n ∧ n.tag = .span := by
  obtain ⟨n, c, -, hc, hbelow, -, hall⟩ := h
  obtain ⟨-, child, hchild, hinline⟩ := hall c hc
  exact ⟨c, child, hbelow, hchild, tag_of_inline hinline⟩

theorem IsLine.all_isInline {n : VisibleNode} (h : m.IsLine n) (fuel : Nat) :
    ((m.nodeContent n).2.2 ++ m.elements fuel n.children).all isInline = true := by
  rw [List.all_append, Bool.and_eq_true]
  refine ⟨h.1, ?_⟩
  cases fuel with
  | zero => rfl
  | succ fuel =>
    rw [elements, List.all_eq_true]
    intro e he
    obtain ⟨c, hc, he⟩ := List.mem_filterMap.mp he
    obtain ⟨hroot, child, hchild, hinline⟩ := h.2 c hc
    rw [hchild, Option.map_some, if_neg hroot] at he
    split at he
    · cases he
    · obtain rfl := Option.some.inj he
      rw [isInline, hinline]
      rfl

/-- Nodes with children do not become void elements. -/
theorem hasContent_nodeContent (m : MarkupSource) {n : VisibleNode} (h : n.children ≠ [])
    (children : List ComponentNode) : HasContent (m.nodeContent n).1 children := by
  unfold HasContent nodeContent
  cases n.tag with
  | div => simp [voidTags]
  | svg => simp [voidTags]
  | img =>
    dsimp only
    rw [if_neg (by simpa using h)]
    simp [voidTags]
  | p =>
    dsimp only
    rcases fst_ofBlocks .p (m.texts.getD n.id []) with heq | heq <;> rw [heq] <;>
      simp [voidTags, Tag.name]
  | span =>
    dsimp only
    rcases fst_ofBlocks .span (m.texts.getD n.id []) with heq | heq <;> rw [heq] <;>
      simp [voidTags, Tag.name]

theorem isInline_pictureElement (m : MarkupSource) (n : VisibleNode) :
    (m.pictureElement n).isInline = false := by
  unfold pictureElement
  dsimp only
  split <;> simp [isInline, inlineTags]

/-! ## Elements of nodes in their places -/

/-- The element of a node among those of some siblings. -/
theorem mem_elements {ids : List NodeId} {id : NodeId} {n : VisibleNode} (hid : id ∈ ids)
    (hskip : ¬ m.plan.isSkipped id) (hn : m.tree.find? id = some n) (fuel : Nat) :
    (if m.plan.isVectorRoot id then m.pictureElement n
      else .element (m.nodeContent n).1 (m.nodeAttributes n (m.nodeContent n).2.1)
        ((m.nodeContent n).2.2 ++ m.elements fuel n.children) none)
      ∈ m.elements (fuel + 1) ids := by
  rw [elements]
  refine List.mem_filterMap.mpr ⟨id, hid, ?_⟩
  rw [if_neg hskip, hn, Option.map_some]

/-- The element of a picture among those of some siblings. -/
theorem pictureElement_mem_elements {n : VisibleNode} (hn : m.tree.find? n.id = some n)
    (hroot : m.plan.isVectorRoot n.id) (hskip : ¬ m.plan.isSkipped n.id) (fuel : Nat)
    (ids : List NodeId) (hid : n.id ∈ ids) : m.pictureElement n ∈ m.elements (fuel + 1) ids := by
  have helement := mem_elements hid hskip hn fuel
  rwa [if_pos hroot] at helement

/-- A condition on elements holds around a node: of the element of every node that it lies below,
for any fuel that leaves something inside of that. -/
def Around (m : MarkupSource) (P : String → List ComponentNode → Prop) (x : NodeId) : Prop :=
  ∀ (n : VisibleNode) (fuel : Nat), m.tree.find? n.id = some n → ¬ m.plan.isSkipped n.id →
    ¬ m.plan.isVectorRoot n.id → (∃ c ∈ n.children, x = c ∨ x ∈ m.tree.descendants c) →
      P (m.nodeContent n).1 ((m.nodeContent n).2.2 ++ m.elements (fuel + 1) n.children)

/-- A node above one that is part of no picture has its element. -/
theorem mem_elements_above (ht : m.tree.Arranged) (hplan : Absorbs m.tree m.plan) {x : NodeId}
    (hx : ¬ m.plan.isSkipped x) {ids : List NodeId} {id : NodeId} (hid : id ∈ ids)
    (horder : id ∈ m.tree.order) {fuel : Nat}
    (hbelow : x ∈ (m.tree.childrenOf id).flatMap (m.tree.subtree fuel)) :
    ∃ n, n.id = id ∧ m.tree.find? n.id = some n ∧ m.tree.childrenOf n.id = n.children
      ∧ ¬ m.plan.isSkipped n.id ∧ ¬ m.plan.isVectorRoot n.id
      ∧ .element (m.nodeContent n).1 (m.nodeAttributes n (m.nodeContent n).2.1)
          ((m.nodeContent n).2.2 ++ m.elements fuel n.children) none
        ∈ m.elements (fuel + 1) ids := by
  -- Below a picture or a part of one nothing is left.
  have hkept : ¬ (m.plan.isSkipped id ∨ m.plan.isVectorRoot id) := by
    intro habove
    have hnone := filter_below_eq_nil ht hplan habove fuel
    rw [List.filter_eq_nil_iff] at hnone
    exact hnone x hbelow (by simpa using hx)
  rw [not_or] at hkept
  obtain ⟨n, hn, rfl⟩ := ht.recorded id horder
  have hchildren : m.tree.childrenOf n.id = n.children := VisibleTree.childrenOf_of_find? hn
  have helement := mem_elements hid hkept.1 hn fuel
  rw [if_neg hkept.2] at helement
  exact ⟨n, rfl, hn, hchildren, hkept.1, hkept.2, helement⟩

/-- What stands for a node among its siblings stands in the elements of all nodes above it. -/
theorem within_elements (ht : m.tree.Arranged) (hplan : Absorbs m.tree m.plan)
    {P : String → List ComponentNode → Prop} {e : ComponentNode} {x : NodeId}
    (hx : ¬ m.plan.isSkipped x) (he : ∀ fuel ids, x ∈ ids → e ∈ m.elements (fuel + 1) ids)
    (hP : m.Around P x) (fuel : Nat) :
    ∀ ids, (∀ id ∈ ids, id ∈ m.tree.order) → x ∈ ids.flatMap (m.tree.subtree fuel) →
      Within P e (m.elements fuel ids) := by
  induction fuel with
  | zero =>
    intro ids _ hmem
    simp [VisibleTree.subtree] at hmem
  | succ fuel ih =>
    intro ids hids hmem
    obtain ⟨id, hid, hmem⟩ := List.mem_flatMap.mp hmem
    rw [VisibleTree.subtree] at hmem
    rcases List.mem_cons.mp hmem with rfl | hbelow
    · exact .here (he fuel ids hid)
    · obtain ⟨n, rfl, hn, hchildren, hskip, hroot, helement⟩ :=
        mem_elements_above ht hplan hx hid (hids id hid) hbelow
      rw [hchildren] at hbelow
      have hinside := ih n.children
        (fun c hc => (ht.child n.id c (by rwa [hchildren])).1) hbelow
      obtain ⟨fuel, rfl⟩ : ∃ k, fuel = k + 1 := by
        refine Nat.exists_eq_succ_of_ne_zero ?_
        rintro rfl
        simp [VisibleTree.subtree] at hbelow
      refine .inside helement (hP n fuel hn hskip hroot ?_)
        (hinside.mono (List.subset_append_right _ _))
      obtain ⟨c, hc, hmem⟩ := List.mem_flatMap.mp hbelow
      rw [VisibleTree.subtree] at hmem
      refine ⟨c, hc, (List.mem_cons.mp hmem).imp_right fun hmem => ?_⟩
      exact ht.mem_descendants fuel c (ht.children c) hmem

/-- The element of a node stands in the component, inside of elements that are no void ones, and
among blocks where the condition says so. -/
theorem within_component (ht : m.tree.Arranged) (hplan : Absorbs m.tree m.plan)
    {P : String → List ComponentNode → Prop} {e : ComponentNode} {x : NodeId}
    (hmem : x ∈ m.tree.order) (hx : ¬ m.plan.isSkipped x)
    (he : ∀ fuel ids, x ∈ ids → e ∈ m.elements (fuel + 1) ids) (hP : m.Around P x) :
    Within P e m.component.roots := by
  refine within_elements ht hplan hx he hP _ _ (fun r hr => (ht.root r hr).1) ?_
  rwa [← ht.preorder]

theorem around_hasContent (m : MarkupSource) (x : NodeId) : m.Around HasContent x := by
  intro n fuel _ _ _ hbelow
  obtain ⟨c, hc, -⟩ := hbelow
  exact hasContent_nodeContent m (List.ne_nil_of_mem hc) _

/-- A child of a node that is part of no picture and no picture itself has its element. -/
theorem not_isSkipped_of_mem_children (ht : m.tree.Arranged) (hplan : Absorbs m.tree m.plan)
    {p c : NodeId} (hskip : ¬ m.plan.isSkipped p) (hroot : ¬ m.plan.isVectorRoot p)
    (hc : c ∈ m.tree.childrenOf p) : ¬ m.plan.isSkipped c := by
  intro hskipped
  obtain ⟨r, hr, hbelow⟩ := (hplan c).mp hskipped
  obtain ⟨q, hq, habove⟩ := ht.exists_parent hbelow
  obtain rfl : q = p := Option.some.inj ((ht.child q c hq).2.symm.trans (ht.child p c hc).2)
  rcases habove with rfl | habove
  · exact hroot hr
  · exact hskip ((hplan q).mpr ⟨r, hr, habove⟩)

/-- Around a picture all elements have blocks unless it is written in a line: they have the picture
itself among their children, or else one of these is not inline. -/
theorem around_hasBlocks (ht : m.tree.Arranged) (hplan : Absorbs m.tree m.plan) {x : NodeId}
    (hroot : m.plan.isVectorRoot x) (hx : ¬ m.plan.isSkipped x) (hline : ¬ m.InLine x) :
    m.Around HasBlocks x := by
  intro n fuel hn hskip hvector hbelow
  have hchildren : m.tree.childrenOf n.id = n.children := VisibleTree.childrenOf_of_find? hn
  obtain ⟨c, hc, hbelow⟩ := hbelow
  refine ⟨hasContent_nodeContent m (List.ne_nil_of_mem hc) [], ?_⟩
  rw [List.all_append, Bool.and_eq_false_iff]
  rcases hbelow with rfl | hbelow
  · obtain ⟨nx, hnx, -⟩ := ht.recorded x (ht.child n.id x (by rwa [hchildren])).1
    have helement := mem_elements hc hx hnx fuel
    rw [if_pos hroot] at helement
    refine Or.inr (List.all_eq_false.mpr ⟨_, helement, ?_⟩)
    rw [isInline_pictureElement]
    exact Bool.false_ne_true
  · refine (em _).imp_right fun hown => ?_
    rw [Bool.not_eq_false] at hown
    obtain ⟨c', hc', hblock⟩ : ∃ c' ∈ n.children, ¬ (¬ m.plan.isVectorRoot c' ∧ ∃ child,
        m.tree.find? c' = some child ∧ inlineTags.contains (m.nodeContent child).1 = true) := by
      by_contra hall
      push Not at hall
      exact hline ⟨n, c, hn, hc, hbelow, hown, hall⟩
    have hmem : c' ∈ m.tree.childrenOf n.id := by rwa [hchildren]
    obtain ⟨child, hchild, -⟩ := ht.recorded c' (ht.child n.id c' hmem).1
    have hkept := not_isSkipped_of_mem_children ht hplan hskip hvector hmem
    refine List.all_eq_false.mpr ⟨_, mem_elements hc' hkept hchild fuel, ?_⟩
    split
    · rw [isInline_pictureElement]
      exact Bool.false_ne_true
    · next hpicture =>
      intro hinline
      rw [isInline, Bool.and_eq_true] at hinline
      exact hblock ⟨hpicture, child, hchild, hinline.1⟩

/-- The elements of some siblings show what stands for a node below them as in a line, unless one of
the siblings lies itself below the node that has its children in its line. -/
theorem infix_elements_or_below (ht : m.tree.Arranged) (hplan : Absorbs m.tree m.plan)
    {e : ComponentNode} {x : NodeId} (hx : ¬ m.plan.isSkipped x)
    (he : ∀ fuel ids, x ∈ ids → e ∈ m.elements (fuel + 1) ids) {line : VisibleNode}
    (hn : m.tree.find? line.id = some line) (hbelow : x ∈ m.tree.descendants line.id)
    (hline : m.IsLine line) (fuel : Nat) :
    ∀ ids, (∀ id ∈ ids, id ∈ m.tree.order) → x ∈ ids.flatMap (m.tree.subtree fuel) →
      (∀ depth, renderInline e <:+: renderLines depth (m.elements fuel ids))
        ∨ ∃ id ∈ ids, id ∈ m.tree.descendants line.id := by
  induction fuel with
  | zero =>
    intro ids _ hmem
    simp [VisibleTree.subtree] at hmem
  | succ fuel ih =>
    intro ids hids hmem
    obtain ⟨id, hid, hmem⟩ := List.mem_flatMap.mp hmem
    rw [VisibleTree.subtree] at hmem
    rcases List.mem_cons.mp hmem with rfl | hinside
    · exact Or.inr ⟨x, hid, hbelow⟩
    -- On the way up from the node the siblings lie below the line, until they are its children.
    · obtain ⟨n, rfl, hfound, hchildren, hskip, hroot, helement⟩ :=
        mem_elements_above ht hplan hx hid (hids id hid) hinside
      have horder : ∀ c ∈ n.children, c ∈ m.tree.order :=
        fun c hc => (ht.child n.id c (by rwa [hchildren])).1
      rw [hchildren] at hinside
      have hcontent : HasContent (m.nodeContent n).1 [] := by
        refine hasContent_nodeContent m ?_ []
        rintro hnone
        rw [hnone] at hinside
        cases hinside
      have hwithin := (within_elements ht hplan hx he (around_hasContent m x) fuel n.children
        horder hinside).mono (List.subset_append_right (m.nodeContent n).2.2 _)
      by_cases hsame : n.id = line.id
      · obtain rfl : n = line := Option.some.inj (hfound.symm.trans ((congrArg _ hsame).trans hn))
        refine Or.inl fun depth => .trans ?_ (infix_renderLines depth helement)
        refine infix_block hcontent (fun _ => hwithin.infix_renderInlines) (fun hblocks => ?_) _ _
        rw [hline.all_isInline fuel] at hblocks
        cases hblocks
      · rcases ih n.children horder hinside with hwritten | ⟨c, hc, habove⟩
        · refine Or.inl fun depth => .trans ?_ (infix_renderLines depth helement)
          refine infix_block hcontent (fun _ => hwithin.infix_renderInlines) (fun _ depth => ?_) _ _
          exact (hwritten depth).trans (renderLines_infix_append depth _ _)
        · obtain ⟨p, hp, hparent⟩ := ht.exists_parent habove
          obtain rfl : p = n.id := Option.some.inj
            ((ht.child p c hp).2.symm.trans (ht.child n.id c (by rwa [hchildren])).2)
          exact Or.inr ⟨n.id, hid, hparent.resolve_left hsame⟩

/-- What stands for a node that is written in a line is written as in a line. -/
theorem renderInline_infix_render (ht : m.tree.Arranged) (hplan : Absorbs m.tree m.plan)
    {e : ComponentNode} {x : NodeId} (hmem : x ∈ m.tree.order) (hx : ¬ m.plan.isSkipped x)
    (he : ∀ fuel ids, x ∈ ids → e ∈ m.elements (fuel + 1) ids) (hline : m.InLine x) :
    renderInline e <:+: m.component.render.toList := by
  obtain ⟨n, c, hn, hc, hbelow, hall⟩ := hline
  have hchildren : m.tree.childrenOf n.id = n.children := VisibleTree.childrenOf_of_find? hn
  have hinside : x ∈ m.tree.descendants n.id :=
    ht.descendants_trans (ht.children n.id c (by rwa [hchildren])) hbelow
  unfold ComponentTree.render
  rw [String.toList_ofList]
  rcases infix_elements_or_below ht hplan hx he hn hinside hall _ m.tree.rootIds
    (fun r hr => (ht.root r hr).1) (by rwa [← ht.preorder]) with hwritten | ⟨r, hr, habove⟩
  · exact hwritten 0
  · obtain ⟨p, hp, -⟩ := ht.exists_parent habove
    have hparent := (ht.child p r hp).2
    rw [(ht.root r hr).2] at hparent
    cases hparent


/-! ## Pictures in their places -/

variable {n : VisibleNode}

/-- The element of a vector picture stands in the component. -/
theorem within_picture (ht : m.tree.Arranged) (hplan : Absorbs m.tree m.plan)
    (hmem : n.id ∈ m.tree.order) (hn : m.tree.find? n.id = some n)
    (hroot : m.plan.isVectorRoot n.id) (hskip : ¬ m.plan.isSkipped n.id)
    {P : String → List ComponentNode → Prop} (hP : m.Around P n.id) :
    Within P (m.pictureElement n) m.component.roots :=
  within_component ht hplan hmem hskip (pictureElement_mem_elements hn hroot hskip) hP

/-- So does the element of a node without children. -/
theorem within_leaf (ht : m.tree.Arranged) (hplan : Absorbs m.tree m.plan)
    (hmem : n.id ∈ m.tree.order) (hn : m.tree.find? n.id = some n)
    (hroot : ¬ m.plan.isVectorRoot n.id) (hskip : ¬ m.plan.isSkipped n.id)
    (hleaf : n.children = []) :
    Within HasContent (.element (m.nodeContent n).1 (m.nodeAttributes n (m.nodeContent n).2.1)
      (m.nodeContent n).2.2 none) m.component.roots := by
  refine within_component ht hplan hmem hskip (fun fuel ids hid => ?_) (around_hasContent m n.id)
  have hnone : m.elements fuel [] = [] := by
    cases fuel with
    | zero => rfl
    | succ fuel => rfl
  have helement := mem_elements hid hskip hn fuel
  rwa [if_neg hroot, hleaf, hnone, List.append_nil] at helement

/-- A picture that is referred to by its address is written as an image. -/
theorem infix_picture_url (ht : m.tree.Arranged) (hplan : Absorbs m.tree m.plan)
    (hmem : n.id ∈ m.tree.order) (hn : m.tree.find? n.id = some n)
    (hroot : m.plan.isVectorRoot n.id) (hskip : ¬ m.plan.isSkipped n.id) {address : String}
    (hasset : m.assets[n.id]? = some (.url address)) :
    ∃ attributes : TextMap, attributes["class"]? = some (m.classOf n.id)
      ∧ attributes["src"]? = some address
      ∧ openTag "img" attributes <:+: m.component.render.toList := by
  have hwithin := within_picture ht hplan hmem hn hroot hskip (around_hasContent m n.id)
  unfold pictureElement at hwithin
  rw [hasset] at hwithin
  refine ⟨_, ?_, ?_, infix_render_img hwithin⟩
  · rw [class_insert (by decide), class_insert (by decide), Std.ExtTreeMap.getElem?_insert_self]
    rfl
  · rw [Std.ExtTreeMap.getElem?_insert, if_neg (by decide), Std.ExtTreeMap.getElem?_insert_self]

/-- A picture that nothing refers to is written as an empty division. -/
theorem infix_picture_none (ht : m.tree.Arranged) (hplan : Absorbs m.tree m.plan)
    (hmem : n.id ∈ m.tree.order) (hn : m.tree.find? n.id = some n)
    (hroot : m.plan.isVectorRoot n.id) (hskip : ¬ m.plan.isSkipped n.id)
    (hasset : m.assets[n.id]? = none) :
    openTag "div" ((∅ : TextMap).insert "class" (m.classOf n.id)) ++ closeTag "div"
      <:+: m.component.render.toList := by
  have hwithin := within_picture ht hplan hmem hn hroot hskip (around_hasContent m n.id)
  unfold pictureElement at hwithin
  rw [hasset] at hwithin
  exact infix_render_div hwithin

/-- A picture that is referred to by its markup is written with that inside, unless it is written in
a line. -/
theorem infix_picture_inlined (ht : m.tree.Arranged) (hplan : Absorbs m.tree m.plan)
    (hmem : n.id ∈ m.tree.order) (hn : m.tree.find? n.id = some n)
    (hroot : m.plan.isVectorRoot n.id) (hskip : ¬ m.plan.isSkipped n.id) {markup : String}
    (hasset : m.assets[n.id]? = some (.inlined markup)) (hline : ¬ m.InLine n.id) :
    ∃ depth, openTag "div" ((∅ : TextMap).insert "class" (m.classOf n.id))
      ++ (renderRaw depth markup ++ indentation depth ++ closeTag "div")
        <:+: m.component.render.toList := by
  have hwithin := within_picture ht hplan hmem hn hroot hskip
    (around_hasBlocks ht hplan hroot hskip hline)
  unfold pictureElement at hwithin
  rw [hasset] at hwithin
  obtain ⟨depth, hwritten⟩ := hwithin.exists_infix_renderLines 0
  refine ⟨depth, ?_⟩
  unfold ComponentTree.render
  rw [String.toList_ofList]
  have hdiv : voidTags.contains "div" = false := by decide
  rw [render, hdiv, if_neg Bool.false_ne_true] at hwritten
  exact hwritten

/-- In a line such a picture is written without its markup. -/
theorem infix_picture_inLine (ht : m.tree.Arranged) (hplan : Absorbs m.tree m.plan)
    (hmem : n.id ∈ m.tree.order) (hn : m.tree.find? n.id = some n)
    (hroot : m.plan.isVectorRoot n.id) (hskip : ¬ m.plan.isSkipped n.id) {markup : String}
    (hasset : m.assets[n.id]? = some (.inlined markup)) (hline : m.InLine n.id) :
    openTag "div" ((∅ : TextMap).insert "class" (m.classOf n.id)) ++ closeTag "div"
      <:+: m.component.render.toList := by
  have hwritten := renderInline_infix_render ht hplan hmem hskip
    (pictureElement_mem_elements hn hroot hskip) hline
  unfold pictureElement at hwritten
  rw [hasset] at hwritten
  exact hwritten

/-- Other attributes of a node are not touched by its hints. -/
theorem getElem?_nodeAttributes_src (m : MarkupSource) (n : VisibleNode) (attributes : TextMap) :
    (m.nodeAttributes n attributes)["src"]? = attributes["src"]? := by
  have hhints : n.hints.toList.reverse.find? (fun hint => "data-" ++ hint.1 = "src") = none := by
    rw [List.find?_eq_none]
    intro hint _ heq
    have hchars := congrArg String.toList (of_decide_eq_true heq)
    simp at hchars
  unfold nodeAttributes
  rw [getElem?_foldl_insert (fun hint : String × String => "data-" ++ hint.1) (fun hint => hint.2),
    hhints, Option.map_none, Option.none_or, Std.ExtTreeMap.getElem?_insert, if_neg (by decide)]

/-- An image without children is written as one. -/
theorem infix_image (ht : m.tree.Arranged) (hplan : Absorbs m.tree m.plan)
    (hmem : n.id ∈ m.tree.order) (hn : m.tree.find? n.id = some n)
    (hroot : ¬ m.plan.isVectorRoot n.id) (hskip : ¬ m.plan.isSkipped n.id)
    (htag : n.tag = .img) (hleaf : n.children = []) {address : String}
    (hasset : m.assets[n.id]? = some (.url address)) :
    ∃ attributes : TextMap, attributes["class"]? = some (m.classOf n.id)
      ∧ attributes["src"]? = some address
      ∧ openTag "img" attributes <:+: m.component.render.toList := by
  have hcontent : m.nodeContent n
      = ("img", ((∅ : TextMap).insert "alt" n.name).insert "src" address, []) := by
    unfold nodeContent
    rw [htag, hleaf, hasset]
    rfl
  have hwithin := within_leaf ht hplan hmem hn hroot hskip hleaf
  rw [hcontent] at hwithin
  refine ⟨_, getElem?_nodeAttributes m n _, ?_, infix_render_img hwithin⟩
  rw [getElem?_nodeAttributes_src, Std.ExtTreeMap.getElem?_insert_self]

end MarkupSource

end SceneCompiler
