import Mathlib
import SceneCompiler.Proofs.Markup.Placement
/-!
# Raw markup at its place

An element with raw markup has that in the place of its children. Written as a block it has the
lines of the markup between its tags. Written in a line it has its children there, and the markup is
lost: whether a row of nodes is written in a line depends on these nodes alone, and below them all
is written so. A component hook may return such trees.

* `Place`, `Place.fill`: a place in a tree, and the tree with an element there.
* `Place.InLine`: some element around the place is written with its children in a line.
* `standsIn_block`, `standsIn_line`: what is written at a place.
* `writesRaw_iff`: raw markup is written at a place exactly when it is not in a line.
-/

namespace SceneCompiler.ComponentNode

/-! ## Elements with raw markup -/

/-- An element with raw markup that is no void one. -/
structure RawElement where
  tag : String
  attributes : TextMap
  children : List ComponentNode
  markup : String
  hasContent : voidTags.contains tag = false

namespace RawElement

def node (e : RawElement) : ComponentNode :=
  .element e.tag e.attributes e.children (some e.markup)

/-- The element with the lines of its markup between the tags. -/
def block (depth : Nat) (e : RawElement) : List Char :=
  openTag e.tag e.attributes ++
    (renderRaw depth e.markup ++ indentation depth ++ closeTag e.tag)

/-- The element with its children between the tags. -/
def line (e : RawElement) : List Char :=
  openTag e.tag e.attributes ++ (renderInlines e.children ++ closeTag e.tag)

theorem render_node (depth : Nat) (e : RawElement) : render depth e.node = e.block depth := by
  rw [node, render, e.hasContent, if_neg Bool.false_ne_true]
  rfl

theorem renderInline_node (e : RawElement) : renderInline e.node = e.line := by
  rw [node, renderInline, e.hasContent, if_neg Bool.false_ne_true]
  rfl

theorem isInline_node (e : RawElement) : e.node.isInline = false :=
  Bool.and_false _

end RawElement

/-- Every line of some markup is written. -/
theorem infix_renderRaw {markup : String} {line : List Char} (h : line ∈ textLines markup.toList)
    (depth : Nat) : line <:+: renderRaw depth markup := by
  let written := fun line : List Char => indentation (depth + 1) ++ line ++ ['\n']
  have hwritten : written line <:+: (textLines markup.toList).flatMap written :=
    List.infix_of_mem_flatten (List.mem_map_of_mem h)
  have hline : line <:+: written line := ⟨_, _, rfl⟩
  exact (hline.trans hwritten).trans (List.suffix_cons '\n' _).isInfix

/-! ## Places -/

/-- A place among some nodes, or inside of one of them: in elements that are no void ones and have
no raw markup, so that their children are written. -/
inductive Place where
  | here (before after : List ComponentNode)
  | inside (before after : List ComponentNode) (tag : String) (attributes : TextMap)
      (hasContent : voidTags.contains tag = false) (place : Place)

namespace Place

/-- The nodes with another one at the place. -/
def fill (n : ComponentNode) : Place → List ComponentNode
  | here before after => before ++ n :: after
  | inside before after tag attributes _ place =>
    before ++ .element tag attributes (place.fill n) none :: after

/-- All nodes are inline, when there is an element with raw markup at the place. -/
def isInlineRow : Place → Bool
  | here _ _ => false
  | inside before after tag _ _ _ =>
    before.all isInline && (inlineTags.contains tag && after.all isInline)

/-- One of the elements around the place has only inline children, so that they are written in a
line, with everything inside of them. -/
def InLine : Place → Prop
  | here _ _ => False
  | inside _ _ _ _ _ place => place.isInlineRow = true ∨ place.InLine

/-- The places are those where elements stand inside of others that have content. -/
theorem within_iff_exists_fill {n : ComponentNode} {nodes : List ComponentNode} :
    Within HasContent n nodes ↔ ∃ place : Place, place.fill n = nodes := by
  constructor
  · intro h
    induction h with
    | here hmem =>
      obtain ⟨before, after, rfl⟩ := List.append_of_mem hmem
      exact ⟨.here before after, rfl⟩
    | @inside _ _ tag attributes hmem hcontent _ ih =>
      obtain ⟨place, rfl⟩ := ih
      obtain ⟨before, after, rfl⟩ := List.append_of_mem hmem
      exact ⟨.inside before after tag attributes hcontent place, rfl⟩
  · rintro ⟨place, rfl⟩
    induction place with
    | here before after => exact .here (List.mem_append_right _ List.mem_cons_self)
    | inside before after tag attributes hcontent place ih =>
      exact .inside (List.mem_append_right _ List.mem_cons_self) hcontent ih

theorem all_isInline_fill (place : Place) (e : RawElement) :
    (place.fill e.node).all isInline = place.isInlineRow := by
  cases place with
  | here before after =>
    rw [fill, List.all_append, List.all_cons, e.isInline_node, Bool.false_and, Bool.and_false]
    rfl
  | inside before after tag attributes hcontent place =>
    rw [fill, List.all_append, List.all_cons, isInline, Option.isNone_none, Bool.and_true]
    rfl

end Place

/-! ## What is written at a place -/

/-- Whatever the element, what is written for it stands between the same two texts. -/
def StandsIn (part whole : RawElement → List Char) : Prop :=
  ∃ before after, ∀ e, whole e = before ++ (part e ++ after)

theorem StandsIn.around {part whole outer : RawElement → List Char} (h : StandsIn part whole)
    {x y : List Char} (houter : ∀ e, outer e = x ++ (whole e ++ y)) : StandsIn part outer := by
  obtain ⟨before, after, hwhole⟩ := h
  refine ⟨x ++ before, after ++ y, fun e => ?_⟩
  rw [houter, hwhole]
  simp only [List.append_assoc]

section Written

variable {part : RawElement → List Char}

/-- In a line, what is written for the children of an element stands between its tags. -/
theorem StandsIn.inlineElement {children : RawElement → List ComponentNode}
    (h : StandsIn part fun e => renderInlines (children e)) {tag : String}
    (hcontent : voidTags.contains tag = false) (before after : List ComponentNode)
    (attributes : TextMap) :
    StandsIn part fun e =>
      renderInlines (before ++ .element tag attributes (children e) none :: after) := by
  refine h.around (x := renderInlines before ++ openTag tag attributes)
    (y := closeTag tag ++ renderInlines after) fun e => ?_
  simp only [renderInlines_eq_flatMap, List.flatMap_append, List.flatMap_cons]
  rw [renderInline, hcontent, if_neg Bool.false_ne_true, renderInlines_eq_flatMap]
  simp only [List.append_assoc]

/-- A node of some rows stands in its own one. -/
theorem StandsIn.row {depth : Nat} {node : RawElement → ComponentNode}
    (h : StandsIn part fun e => render depth (node e)) (before after : List ComponentNode) :
    StandsIn part fun e => renderLines depth (before ++ node e :: after) := by
  refine h.around (x := renderLines depth before ++ indentation depth)
    (y := '\n' :: renderLines depth after) fun e => ?_
  simp only [renderLines_eq_flatMap, List.flatMap_append, List.flatMap_cons, List.append_assoc,
    List.singleton_append]

/-- In a line an element is written with its children. -/
theorem standsIn_renderInlines (place : Place) :
    StandsIn RawElement.line fun e => renderInlines (place.fill e.node) := by
  induction place with
  | here before after =>
    refine ⟨renderInlines before, renderInlines after, fun e => ?_⟩
    simp only [Place.fill, renderInlines_eq_flatMap, List.flatMap_append, List.flatMap_cons,
      e.renderInline_node]
  | inside before after tag attributes hcontent place ih =>
    exact ih.inlineElement hcontent before after attributes

/-- An element with inline children only has them in a line. -/
theorem StandsIn.lineElement {place : Place} {tag : String}
    (h : StandsIn part fun e => renderInlines (place.fill e.node))
    (hcontent : voidTags.contains tag = false) (hrow : place.isInlineRow = true) (depth : Nat)
    (attributes : TextMap) :
    StandsIn part fun e => render depth (.element tag attributes (place.fill e.node) none) := by
  refine h.around (x := openTag tag attributes) (y := closeTag tag) fun e => ?_
  rw [render, hcontent, if_neg Bool.false_ne_true, place.all_isInline_fill, hrow, if_pos rfl]

/-- Every other one has them as blocks, one level deeper. -/
theorem StandsIn.blockElement {place : Place} {tag : String} {depth : Nat}
    (h : StandsIn part fun e => renderLines (depth + 1) (place.fill e.node))
    (hcontent : voidTags.contains tag = false) (hrow : place.isInlineRow = false)
    (attributes : TextMap) :
    StandsIn part fun e => render depth (.element tag attributes (place.fill e.node) none) := by
  refine h.around (x := openTag tag attributes ++ ['\n'])
    (y := indentation depth ++ closeTag tag) fun e => ?_
  rw [render, hcontent, if_neg Bool.false_ne_true, place.all_isInline_fill, hrow,
    if_neg Bool.false_ne_true]
  simp only [List.append_assoc, List.singleton_append]

/-- Below an element with inline children only, an element with raw markup is written with its
children. -/
theorem standsIn_line {place : Place} (h : place.InLine) (depth : Nat) :
    StandsIn RawElement.line fun e => renderLines depth (place.fill e.node) := by
  induction place generalizing depth with
  | here => exact h.elim
  | inside before after tag attributes hcontent place ih =>
    refine StandsIn.row ?_ before after
    cases hrow : place.isInlineRow with
    | true => exact (standsIn_renderInlines place).lineElement hcontent hrow depth attributes
    | false =>
      have hinside : place.InLine := h.resolve_left (by simp [hrow])
      exact (ih hinside (depth + 1)).blockElement hcontent hrow attributes

/-- Elsewhere it is written as a block. -/
theorem standsIn_block {place : Place} (h : ¬ place.InLine) (depth : Nat) :
    ∃ depth', StandsIn (RawElement.block depth') fun e =>
      renderLines depth (place.fill e.node) := by
  induction place generalizing depth with
  | here before after =>
    refine ⟨depth, StandsIn.row ⟨[], [], fun e => ?_⟩ before after⟩
    exact (e.render_node depth).trans (List.append_nil _).symm
  | inside before after tag attributes hcontent place ih =>
    have hrow : place.isInlineRow = false := by
      rw [← Bool.not_eq_true]
      exact fun hrow => h (Or.inl hrow)
    obtain ⟨depth', hinside⟩ := ih (fun hline => h (Or.inr hline)) (depth + 1)
    exact ⟨depth', (hinside.blockElement hcontent hrow attributes).row before after⟩

end Written

/-! ## Raw markup is written or lost -/

namespace Place

/-- The markup of a tree with an element at the place. -/
def rendered (place : Place) (name : String) (e : RawElement) : List Char :=
  (ComponentTree.mk name (place.fill e.node)).render.toList

/-- Every line of the raw markup of an element at the place is written between the tags of the
element, and its children are not: the same is written whatever they are. -/
def WritesRaw (place : Place) : Prop :=
  ∃ (before after : List Char) (written : String → List Char), ∀ (name : String) (e : RawElement),
    place.rendered name e = before ++
      (openTag e.tag e.attributes ++ (written e.markup ++ closeTag e.tag) ++ after) ∧
    ∀ line ∈ textLines e.markup.toList, line <:+: written e.markup

/-- The children of an element at the place are written between its tags, and its raw markup is not:
the same is written whatever it is. -/
def LosesRaw (place : Place) : Prop :=
  ∃ before after : List Char, ∀ (name : String) (e : RawElement),
    place.rendered name e = before ++ (e.line ++ after)

variable {place : Place}

theorem rendered_eq (place : Place) (name : String) (e : RawElement) :
    place.rendered name e = renderLines 0 (place.fill e.node) :=
  String.toList_ofList

theorem writesRaw_of_not_inLine (h : ¬ place.InLine) : place.WritesRaw := by
  obtain ⟨depth, before, after, hblock⟩ := standsIn_block h 0
  refine ⟨before, after, fun markup => renderRaw depth markup ++ indentation depth,
    fun name e => ⟨?_, fun line hline => ?_⟩⟩
  · exact (place.rendered_eq name e).trans (hblock e)
  · exact (infix_renderRaw hline depth).trans (List.prefix_append _ _).isInfix

theorem losesRaw_of_inLine (h : place.InLine) : place.LosesRaw := by
  obtain ⟨before, after, hline⟩ := standsIn_line h 0
  exact ⟨before, after, fun name e => (place.rendered_eq name e).trans (hline e)⟩

/-- Where the children are written, they are not left out. -/
theorem LosesRaw.not_writesRaw (h : place.LosesRaw) : ¬ place.WritesRaw := by
  rintro ⟨before, after, written, hwrites⟩
  obtain ⟨before', after', hloses⟩ := h
  -- Two elements that differ in their children are written alike, and are not.
  let e : List ComponentNode → RawElement := fun children =>
    ⟨"div", ∅, children, "", by decide⟩
  have halike : place.rendered "" (e []) = place.rendered "" (e [.text "x"]) :=
    (hwrites "" (e [])).1.trans (hwrites "" (e [.text "x"])).1.symm
  rw [hloses, hloses] at halike
  have hlength := congrArg List.length halike
  simp [e, RawElement.line, renderInlines, renderInline, escapeMarkup, escapeChar] at hlength

/-- Raw markup is written at a place exactly when no element around it has its children in a line,
and lost exactly when one has. -/
theorem writesRaw_iff (place : Place) :
    (place.WritesRaw ↔ ¬ place.InLine) ∧ (place.LosesRaw ↔ place.InLine) := by
  refine ⟨⟨fun hwrites hline => ?_, writesRaw_of_not_inLine⟩, fun hloses => ?_,
    losesRaw_of_inLine⟩
  · exact (losesRaw_of_inLine hline).not_writesRaw hwrites
  · by_contra hblocks
    exact hloses.not_writesRaw (writesRaw_of_not_inLine hblocks)

/-! ### An element in a span -/

/-- The place in a span in a division that has nothing else. -/
def inSpan : Place :=
  .inside [] [] "div" ∅ (by decide) (.inside [] [] "span" ∅ (by decide) (.here [] []))

/-- The division has inline children only, so the markup of a picture in the span is lost. -/
theorem not_writesRaw_inSpan : ¬ inSpan.WritesRaw ∧
    (ComponentTree.mk "icon" (inSpan.fill (.element "div" ∅ [] (some "<svg/>")))).render =
      "<div><span><div></div></span></div>\n" := by
  have hline : inSpan.InLine := Or.inl (by decide)
  exact ⟨(losesRaw_of_inLine hline).not_writesRaw, by decide +kernel⟩

end Place

end SceneCompiler.ComponentNode
