import Mathlib
import SceneCompiler.Compile.Pictures
import SceneCompiler.Proofs.Markup.Elements
import SceneCompiler.Proofs.Markup.Reading
import SceneCompiler.Proofs.RichText.Blocks
import SceneCompiler.Proofs.Session.Ensures
/-!
# Texts in markup

What marks, styles, links and favicons put around a run are elements that are written in the line of
the text, so nothing comes between the runs but the breaks between lines. Without its tags, the
markup of a paragraph is the text of its lines.

* `phrase_ofParagraph`: the nodes of a paragraph.
* `collectTexts_texts`: favicons leave the texts as they are.
* `shows_text`: the element of a text node.
-/

namespace SceneCompiler

/-! ## Shown texts -/

/-- The text that is shown for a tag or a character: a break starts a new line. -/
def MarkupItem.shown : MarkupItem → List Char
  | opening tag _ => if tag = "br" then ['\n'] else []
  | closing _ => []
  | character c => [c]

/-- The text that some markup shows, without its tags. -/
def shownText? (markup : List Char) : Option (List Char) :=
  (readMarkup? markup).map fun items => items.flatMap MarkupItem.shown

theorem flatMap_shown_characters (s : List Char) :
    (s.map MarkupItem.character).flatMap MarkupItem.shown = s := by
  rw [List.flatMap_map]
  exact List.flatMap_singleton' s

/-! ## Attributes -/

theorem forall_key_empty (p : String → Prop) : ∀ a ∈ (∅ : TextMap).toList, p a.1 := by
  simp

/-- A new attribute next to others. -/
theorem forall_key_insert {p : String → Prop} {attributes : TextMap} {name : String}
    (h : ∀ a ∈ attributes.toList, p a.1) (hname : p name) (value : String) :
    ∀ a ∈ (attributes.insert name value).toList, p a.1 := by
  rintro ⟨key, text⟩ hmem
  rw [Std.ExtTreeMap.mem_toList_iff_getElem?_eq_some, Std.ExtTreeMap.getElem?_insert] at hmem
  split at hmem
  · next heq =>
    obtain rfl := Std.compare_eq_iff_eq.mp heq
    exact hname
  · exact h (key, text) (Std.ExtTreeMap.mem_toList_iff_getElem?_eq_some.mpr hmem)

/-- A pass that puts in the entries that have a value. -/
theorem forall_key_foldl {p : String → Prop} {step : TextMap → String × Option String → TextMap}
    (hnone : ∀ table key, step table (key, none) = table)
    (hsome : ∀ table key value, step table (key, some value) = table.insert key value)
    {entries : List (String × Option String)} (hentries : ∀ e ∈ entries, p e.1) :
    ∀ a ∈ (entries.foldl step ∅).toList, p a.1 := by
  induction entries using List.reverseRecOn with
  | nil => exact forall_key_empty p
  | append_singleton init last ih =>
    obtain ⟨hinit, hlast⟩ := List.forall_mem_append.mp hentries
    rw [List.foldl_append, List.foldl_cons, List.foldl_nil]
    obtain ⟨key, value⟩ := last
    cases value with
    | none =>
      rw [hnone]
      exact ih hinit
    | some value =>
      rw [hsome]
      exact forall_key_insert (ih hinit) (hlast _ (List.mem_singleton_self _)) value

/-- The hints of a node are three at most. -/
theorem key_nodeHints (n : SceneNode) (hasChildren : Bool) :
    ∀ a ∈ (nodeHints n hasChildren).toList, a.1 ∈ [componentHint, layoutHint, modesHint] := by
  unfold nodeHints
  exact forall_key_foldl (fun _ _ => rfl) (fun _ _ _ => rfl) (by simp)

namespace ComponentNode

/-! ## Nodes in the line of a text -/

theorem listItems_append (nodes others : List ComponentNode) :
    listItems (nodes ++ others) = listItems nodes ++ listItems others := by
  induction nodes with
  | nil => rfl
  | cons n rest ih => rw [List.cons_append, listItems, listItems, ih, List.append_assoc]

/-- Nodes that can be written in the line of a text, and the text that they show. -/
structure Phrase (nodes : List ComponentNode) (text : List Char) : Prop where
  named : ∀ n ∈ nodes, n.Named
  inline : ∀ n ∈ nodes, n.isInline
  shown : (listItems nodes).flatMap MarkupItem.shown = text

/-- The tag can stand around a part of a text. -/
def WrapsText (tag : String) : Prop :=
  IsName tag ∧ inlineTags.contains tag ∧ ¬ voidTags.contains tag

instance (tag : String) : Decidable (WrapsText tag) :=
  inferInstanceAs (Decidable (_ ∧ _))

theorem phrase_nil : Phrase [] [] where
  named := by simp
  inline := by simp
  shown := rfl

theorem Phrase.append {nodes others : List ComponentNode} {text more : List Char}
    (h : Phrase nodes text) (h' : Phrase others more) :
    Phrase (nodes ++ others) (text ++ more) where
  named := List.forall_mem_append.mpr ⟨h.named, h'.named⟩
  inline := List.forall_mem_append.mpr ⟨h.inline, h'.inline⟩
  shown := by rw [listItems_append, List.flatMap_append, h.shown, h'.shown]

theorem phrase_text (s : String) : Phrase [.text s] s.toList where
  named := List.forall_mem_singleton.mpr (.text s)
  inline := List.forall_mem_singleton.mpr rfl
  shown := by
    rw [listItems, listItems, items, List.append_nil]
    exact flatMap_shown_characters s.toList

theorem phrase_break : Phrase [plain "br" []] ['\n'] where
  named := List.forall_mem_singleton.mpr (.element (by decide) (forall_key_empty _) (by simp))
  inline := List.forall_mem_singleton.mpr (by decide)
  shown := rfl

/-- What the element around some nodes shows is what they show. -/
theorem Phrase.shown_element {nodes : List ComponentNode} {text : List Char} (h : Phrase nodes text)
    {tag : String} (hvoid : ¬ voidTags.contains tag) (attributes : TextMap) :
    (items (.element tag attributes nodes none)).flatMap MarkupItem.shown = text := by
  have hbreak : tag ≠ "br" := by
    rintro rfl
    exact hvoid (by decide)
  rw [items, if_neg hvoid, List.flatMap_cons, List.flatMap_append, h.shown]
  simp [MarkupItem.shown, hbreak]

theorem Phrase.around {nodes : List ComponentNode} {text : List Char} (h : Phrase nodes text)
    {tag : String} (htag : WrapsText tag) {attributes : TextMap}
    (hattributes : ∀ a ∈ attributes.toList, IsName a.1) :
    Phrase [.element tag attributes nodes none] text := by
  obtain ⟨hname, hinline, hvoid⟩ := htag
  constructor
  case named => exact List.forall_mem_singleton.mpr (.element hname hattributes h.named)
  case inline =>
    refine List.forall_mem_singleton.mpr ?_
    rw [isInline, hinline]
    rfl
  case shown =>
    rw [listItems, listItems, List.append_nil]
    exact h.shown_element hvoid attributes

theorem Phrase.wrapIf {inner : ComponentNode} {text : List Char} (h : Phrase [inner] text)
    (mark : Bool) {tag : String} (htag : WrapsText tag) :
    Phrase [ComponentNode.wrapIf mark tag inner] text := by
  unfold ComponentNode.wrapIf
  split
  · exact h.around htag (forall_key_empty _)
  · exact h

/-- Whatever a run is marked with, its text stays as it is. -/
theorem phrase_ofRun (base : TextMap) (r : TextRun) : Phrase [ofRun base r] r.text.toList := by
  unfold ofRun
  extract_lets marked style styled
  have hmarked : Phrase [marked] r.text.toList := by
    -- One element for each mark that can be set, from the outermost to the text itself.
    apply Phrase.wrapIf _ _ (by decide)
    apply Phrase.wrapIf _ _ (by decide)
    apply Phrase.wrapIf _ _ (by decide)
    apply Phrase.wrapIf _ _ (by decide)
    apply Phrase.wrapIf _ _ (by decide)
    exact phrase_text r.text
  have hstyled : Phrase [styled] r.text.toList := by
    unfold styled
    split
    · exact hmarked
    · exact hmarked.around (by decide) (forall_key_insert (forall_key_empty _) (by decide) _)
  split
  · exact hstyled
  · next address _ =>
    have hhref : ∀ a ∈ ((∅ : TextMap).insert "href" address).toList, IsName a.1 :=
      forall_key_insert (forall_key_empty _) (by decide) address
    apply hstyled.around (by decide)
    split
    · exact forall_key_insert hhref (by decide) _
    · exact hhref

theorem phrase_ofLine (base : TextMap) (line : TextLine) :
    Phrase (ofLine base line) line.text := by
  unfold ofLine TextLine.text
  induction line.runs with
  | nil => exact phrase_nil
  | cons r rest ih => exact (phrase_ofRun base r).append ih

/-- The nodes of a paragraph show its lines, each on a line of its own. -/
theorem phrase_ofParagraph (base : TextMap) (lines : List TextLine) :
    Phrase (ofParagraph base lines) (List.intercalate ['\n'] (lines.map TextLine.text)) := by
  unfold ofParagraph
  induction lines with
  | nil => exact phrase_nil
  | cons first rest ih =>
    cases rest with
    | nil =>
      rw [List.map_singleton, List.map_singleton, List.intercalate_singleton,
        List.intercalate_singleton]
      exact phrase_ofLine base first
    | cons second others =>
      rw [List.map_cons, List.map_cons, List.map_cons, List.map_cons, List.intercalate_cons_cons,
        List.intercalate_cons_cons]
      exact ((phrase_ofLine base first).append phrase_break).append ih

/-! ## Elements of texts -/

/-- The node shows a text wherever it is written. -/
structure Shows (n : ComponentNode) (text : List Char) : Prop where
  inLine : shownText? n.renderInline = some text
  onLines : ∀ depth, shownText? (n.render depth) = some text

theorem render_eq_renderInline {tag : String} {attributes : TextMap} {children : List ComponentNode}
    (hvoid : ¬ voidTags.contains tag) (hinline : ∀ n ∈ children, n.isInline) (depth : Nat) :
    render depth (.element tag attributes children none)
      = renderInline (.element tag attributes children none) := by
  rw [render, renderInline, if_neg hvoid, if_neg hvoid]
  exact congrArg _ (if_pos (List.all_eq_true.mpr hinline))

theorem Phrase.shows_element {nodes : List ComponentNode} {text : List Char} (h : Phrase nodes text)
    {tag : String} (htag : IsName tag) (hvoid : ¬ voidTags.contains tag) {attributes : TextMap}
    (hattributes : ∀ a ∈ attributes.toList, IsName a.1) :
    Shows (.element tag attributes nodes none) text := by
  have hread := (reads_renderInline _ (.element htag hattributes h.named)).readMarkup?_eq
  have hshown : shownText? (renderInline (.element tag attributes nodes none)) = some text := by
    rw [shownText?, hread, Option.map_some, h.shown_element hvoid]
  constructor
  case inLine => exact hshown
  case onLines =>
    intro depth
    rwa [render_eq_renderInline hvoid h.inline]

end ComponentNode

/-! ## Texts with favicons -/

/-- The kind of a block and the texts of its lines. -/
def TextBlock.texts (b : TextBlock) : ListType × List (List Char) :=
  (b.kind, b.lines.map TextLine.text)

namespace Session

variable {m : Type → Type} [Monad m] [LawfulMonad m] {s : Session m} {c : Caches m}

/-- The favicon of a link changes no text. -/
theorem markLink_text (r : TextRun) : Ensures (s.markLink r) c fun r' _ => r'.text = r.text := by
  unfold markLink
  split
  · exact ensures_pure rfl
  · refine (ensures_trivial _).bind fun icon d _ => ?_
    cases icon <;> exact ensures_pure rfl

theorem mapRuns_text (line : TextLine) :
    Ensures (line.mapRuns s.markLink) c fun line' _ => line'.text = line.text := by
  refine (Ensures.mapM_map (fun r _ => markLink_text r) line.runs).bind fun runs d hruns => ?_
  apply ensures_pure
  show runs.flatMap (fun r => r.text.toList) = line.runs.flatMap fun r => r.text.toList
  have htexts := congrArg (fun texts : List String => texts.flatMap String.toList) hruns
  simpa only [List.flatMap_map] using htexts

theorem mapRuns_texts (b : TextBlock) :
    Ensures (b.mapRuns s.markLink) c fun b' _ => b'.texts = b.texts := by
  refine (Ensures.mapM_map (fun line _ => mapRuns_text line) b.lines).bind fun lines d hlines => ?_
  exact ensures_pure (congrArg (Prod.mk b.kind) hlines)

theorem textContent?_eq {g : SceneGraph} {t : VisibleTree} {id : NodeId} {n : VisibleNode}
    {content : TextContent} (hn : t.find? id = some n) (htag : n.tag = .p ∨ n.tag = .span)
    (htext : (g.find? n.id).bind (·.text) = some content) :
    textContent? g t id = some content := by
  have hkept : ¬ (n.tag ≠ .p ∧ n.tag ≠ .span) := by
    rwa [not_and_or, not_not, not_not]
  unfold textContent?
  rw [hn, Option.bind_eq_bind, Option.bind_some]
  exact (if_neg hkept).trans htext

/-- The texts of some nodes of a tree are there, and they are those of the scene. -/
def Collects (g : SceneGraph) (t : VisibleTree) (done : List NodeId)
    (texts : Std.ExtTreeMap NodeId (List TextBlock)) : Prop :=
  ∀ id ∈ done, ∀ content, textContent? g t id = some content →
    ∃ blocks, texts[id]? = some blocks
      ∧ blocks.map TextBlock.texts = content.blocks.map TextBlock.texts

variable {g : SceneGraph} {t : VisibleTree} {done : List NodeId}
  {texts : Std.ExtTreeMap NodeId (List TextBlock)} {last : NodeId}

theorem Collects.insert (h : Collects g t done texts) {content : TextContent}
    (hcontent : textContent? g t last = some content) {blocks : List TextBlock}
    (hblocks : blocks.map TextBlock.texts = content.blocks.map TextBlock.texts) :
    Collects g t (done ++ [last]) (texts.insert last blocks) := by
  intro id hid content' hcontent'
  rw [Std.ExtTreeMap.getElem?_insert]
  -- A node with a second place in the order is put in again, with the same text.
  split
  · next heq =>
    obtain rfl := Std.compare_eq_iff_eq.mp heq
    obtain rfl := Option.some.inj (hcontent.symm.trans hcontent')
    exact ⟨blocks, rfl, hblocks⟩
  · next hne =>
    rw [Std.compare_eq_iff_eq] at hne
    apply h id _ content' hcontent'
    exact (List.mem_append.mp hid).resolve_right fun hlast =>
      hne (List.mem_singleton.mp hlast).symm

/-- A node without a text. -/
theorem Collects.skip (h : Collects g t done texts) (hnone : textContent? g t last = none) :
    Collects g t (done ++ [last]) texts := by
  intro id hid content hcontent
  apply h id _ content hcontent
  refine (List.mem_append.mp hid).resolve_right fun hlast => ?_
  rw [List.mem_singleton.mp hlast, hnone] at hcontent
  cases hcontent

/-- All texts of a tree are collected, and favicons leave them as they are. -/
theorem collectTexts_texts (g : SceneGraph) (t : VisibleTree) :
    Ensures (s.collectTexts g t) c fun texts _ => Collects g t t.order texts := by
  refine Ensures.foldlM (P := Collects g t) ?_ (by simp [Collects])
  intro done last texts d hdone
  split
  · next content hcontent =>
    refine (Ensures.mapM_map (fun b _ => mapRuns_texts b) content.blocks).bind
      fun blocks e hblocks => ?_
    exact ensures_pure (hdone.insert hcontent hblocks)
  · next hnone => exact ensures_pure (hdone.skip hnone)

end Session

/-! ## Text nodes -/

theorem inferTag_text {n : SceneNode} (htype : n.type = .text) (hfill : ¬ n.hasVisibleImageFill) :
    ((inferTag n).1 = .p ∨ (inferTag n).1 = .span) ∧ (inferTag n).2 = none := by
  unfold inferTag
  rw [if_neg hfill, if_pos htype]
  refine ⟨?_, rfl⟩
  dsimp only
  split
  · exact Or.inl rfl
  · exact Or.inr rfl

namespace SceneGraph

variable {g : SceneGraph} {t : VisibleTree}

/-- A text node is the root of no vector picture. -/
theorem not_becomesVector_text {id : NodeId} {sn : SceneNode} {n : VisibleNode}
    (hsn : g.find? id = some sn) (htype : sn.type = .text) (hn : t.find? id = some n)
    (hkind : n.assetKind = none) : ¬ g.becomesVector t id := by
  simp [becomesVector, isPromotable, hsn, hn, htype, hkind, NodeType.isPlainContainer]

theorem not_isVectorRoot_text {id : NodeId} {sn : SceneNode} {n : VisibleNode}
    (hsn : g.find? id = some sn) (htype : sn.type = .text) (hn : t.find? id = some n)
    (hkind : n.assetKind = none) : ¬ (g.planAssets t).isVectorRoot id := by
  have hplanned : Planned g t t.order (g.planAssets t) := planned_planUpTo g t t.order
  intro hroot
  have hmem := List.contains_iff_mem.mp hroot
  exact not_becomesVector_text hsn htype hn hkind (hplanned.roots id hmem).2.1

end SceneGraph

namespace MarkupSource

open ComponentNode

variable {m : MarkupSource} {n : VisibleNode}

/-- The class and the hints of a node have names. -/
theorem isName_nodeAttributes (m : MarkupSource) (hhints : ∀ a ∈ n.hints.toList,
    a.1 ∈ [componentHint, layoutHint, modesHint]) :
    ∀ a ∈ (m.nodeAttributes n ∅).toList, IsName a.1 := by
  have hnames : ∀ key ∈ [componentHint, layoutHint, modesHint], IsName ("data-" ++ key) := by
    decide
  have hfold : ∀ (hints : List (String × String)) (attributes : TextMap),
      (∀ a ∈ hints, IsName ("data-" ++ a.1)) → (∀ a ∈ attributes.toList, IsName a.1) →
      ∀ a ∈ (hints.foldl (fun attributes hint => attributes.insert ("data-" ++ hint.1) hint.2)
        attributes).toList, IsName a.1 := by
    intro hints
    induction hints with
    | nil => exact fun _ _ hattributes => hattributes
    | cons hint rest ih =>
      intro attributes hhints hattributes
      obtain ⟨hfirst, hrest⟩ := List.forall_mem_cons.mp hhints
      exact ih _ hrest (forall_key_insert hattributes hfirst hint.2)
  apply hfold _ _ (fun a ha => hnames a.1 (hhints a ha))
  exact forall_key_insert (forall_key_empty _) (by decide) _

/-- The one element of a node that has no children, if it is neither a picture nor part of one. -/
theorem elements_singleton {id : NodeId} (hskip : ¬ m.plan.isSkipped id)
    (hn : m.tree.find? id = some n) (hroot : ¬ m.plan.isVectorRoot id) (hchildren : n.children = [])
    (fuel : Nat) :
    m.elements (fuel + 1) [id]
      = [.element (m.nodeContent n).1 (m.nodeAttributes n (m.nodeContent n).2.1)
          (m.nodeContent n).2.2 none] := by
  have hbelow : m.elements fuel [] = [] := by
    cases fuel <;> rfl
  simp [elements, hskip, hn, hroot, hchildren, hbelow]

/-- The content of the element of a text that is one paragraph. -/
theorem nodeContent_paragraph {lines : List TextLine} (htag : n.tag = .p ∨ n.tag = .span)
    (htexts : m.texts[n.id]? = some [⟨.none, lines⟩]) :
    ∃ base, m.nodeContent n = (n.tag.name, ∅, ofParagraph base lines) := by
  refine ⟨baseAttributes [⟨.none, lines⟩], ?_⟩
  unfold nodeContent
  rw [Std.ExtTreeMap.getD_eq_getD_getElem?, htexts, Option.getD_some]
  obtain htag | htag := htag <;> rw [htag] <;> rfl

end MarkupSource

namespace SceneGraph

open ComponentNode MarkupSource

theorem names_text {tag : Tag} (h : tag = .p ∨ tag = .span) :
    IsName tag.name ∧ ¬ voidTags.contains tag.name := by
  obtain rfl | rfl := h <;> decide

theorem exists_paragraph {blocks : List TextBlock} {lines : List TextLine}
    (h : blocks.map TextBlock.texts = [TextBlock.texts ⟨.none, lines⟩]) :
    ∃ lines', blocks = [⟨.none, lines'⟩] ∧ lines'.map TextLine.text = lines.map TextLine.text := by
  obtain ⟨b, rfl, hb⟩ := List.map_eq_singleton_iff.mp h
  obtain ⟨kind, lines'⟩ := b
  obtain ⟨rfl, hlines⟩ := Prod.mk.inj hb
  exact ⟨lines', rfl, hlines⟩

variable {m : Type → Type} [Monad m] [LawfulMonad m]

/-- The element of a text node whose text is one paragraph shows the lines of the paragraph, one
below the other, and nothing else, whatever the session finds out about its links. -/
theorem shows_text {g : SceneGraph} (hg : g.Reachable) (s : Session m) (c : Caches m)
    {roots : List NodeId} {policy : DepthPolicy} {id : NodeId} {sn : SceneNode} {n : VisibleNode}
    {content : TextContent} {lines : List TextLine} (hsn : g.find? id = some sn)
    (htype : sn.type = .text) (hfill : ¬ sn.hasVisibleImageFill) (htext : sn.text = some content)
    (hblocks : content.blocks = [⟨.none, lines⟩])
    (hn : (g.visibleTree roots policy).find? id = some n) (hchildren : n.children = [])
    (hkept : ¬ (g.planAssets (g.visibleTree roots policy)).isSkipped id) :
    Ensures (s.collectTexts g (g.visibleTree roots policy)) c fun texts _ => ∀ assets fuel,
      ∃ element, (g.markupSource roots policy assets texts).elements (fuel + 1) [id] = [element]
        ∧ element.Shows (List.intercalate ['\n'] (lines.map TextLine.text)) := by
  obtain ⟨hmem, limit, depth, index, rfl⟩ := exists_visit_of_sceneNode hg hsn hn
  obtain ⟨htag, hkind⟩ := inferTag_text htype hfill
  obtain rfl : sn.id = id := hg.id_of_find? hsn
  have hcontent : Session.textContent? g (g.visibleTree roots policy) sn.id = some content := by
    refine Session.textContent?_eq hn htag ?_
    show (g.find? sn.id).bind (·.text) = some content
    rw [hsn, Option.bind_some, htext]
  refine (Session.collectTexts_texts g (g.visibleTree roots policy)).imp fun texts d hcollects => ?_
  intro assets fuel
  obtain ⟨blocks, hfound, hsame⟩ := hcollects sn.id hmem content hcontent
  rw [hblocks] at hsame
  obtain ⟨lines', rfl, hlines⟩ := exists_paragraph hsame
  obtain ⟨base, hown⟩ := nodeContent_paragraph (m := g.markupSource roots policy assets texts)
    (n := (g.visit limit depth index sn).node) htag hfound
  have hroot := not_isVectorRoot_text hsn htype hn hkind
  refine ⟨_, elements_singleton hkept hn hroot hchildren fuel, ?_⟩
  rw [hown, ← hlines]
  obtain ⟨hname, hvoid⟩ := names_text htag
  exact (phrase_ofParagraph base lines').shows_element hname hvoid
    (isName_nodeAttributes _ (key_nodeHints sn _))

/-! ### A label with a link -/

/-- A text of two lines with a link in it. -/
def linkedText : TextContent :=
  ⟨[{ characters := "Read " },
    { characters := "the docs", fontWeight := 700, hyperlink := some "https://example.com/docs" },
    { characters := "\nif 1 < 2" }]⟩

def linkedLabel : SceneNode where
  id := ⟨"t"⟩
  type := .text
  text := some linkedText

/-- A scene with just the label in it. -/
def labelScene : SceneGraph :=
  ({} : SceneGraph).addRoot linkedLabel

/-- A session that finds an icon for every domain. -/
def iconSession : Session Id where
  scene := .error "offline"
  styleSnapshot _ := .error "offline"
  exportSvg _ := .error "offline"
  exportPng _ _ := .error "offline"
  imageBytes _ := .error "offline"
  store _ _ _ := .error "offline"
  faviconSource := some fun domain => .ok (some (domain ++ ".png"))

theorem shows_linkedLabel :
    Ensures (iconSession.collectTexts labelScene (labelScene.visibleTree [⟨"t"⟩] {})) {}
      fun texts _ => ∀ assets fuel, ∃ element,
        (labelScene.markupSource [⟨"t"⟩] {} assets texts).elements (fuel + 1) [⟨"t"⟩] = [element]
          ∧ element.Shows "Read the docs\nif 1 < 2".toList := by
  have hsn : labelScene.find? ⟨"t"⟩ = some linkedLabel := rfl
  have hn : (labelScene.visibleTree [⟨"t"⟩] {}).find? ⟨"t"⟩
      = some (labelScene.visit none 0 0 linkedLabel).node := rfl
  have hkept : ¬ (labelScene.planAssets (labelScene.visibleTree [⟨"t"⟩] {})).isSkipped ⟨"t"⟩ := by
    decide
  have hblocks : linkedText.blocks
      = [⟨.none, (splitLines linkedText.segments).map TextLine.merged⟩] := rfl
  have hlines : ((splitLines linkedText.segments).map TextLine.merged).map TextLine.text
      = ["Read the docs".toList, "if 1 < 2".toList] := by
    have hmerged : TextLine.text ∘ TextLine.merged = TextLine.text := funext text_merged
    rw [List.map_map, hmerged]
    decide
  have hshows := shows_text (Reachable.empty.addRoot linkedLabel) iconSession {} hsn rfl (by decide)
    rfl hblocks hn rfl hkept
  rwa [hlines] at hshows

end SceneGraph

end SceneCompiler
