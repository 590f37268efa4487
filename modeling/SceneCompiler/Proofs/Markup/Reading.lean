import Mathlib
import SceneCompiler.Markup.Render
/-!
# Markup read back

A reader of markup cuts it at each `<...>`, takes the tags apart, and replaces the entities in the
texts and in the values of attributes. What is written for a component without raw markup reads as
its tags and texts in document order, whatever the texts and values are. Inside an element whose
children are all inline nothing is added; elsewhere white space is.

* `reads_renderInline`: what is written in the line of a text.
* `readMarkup?_render`: what is written for a component.
-/

namespace SceneCompiler

/-! ## Reading -/

/-- What a reader meets in markup: tags, and the characters of the texts between them. -/
inductive MarkupItem where
  | opening (tag : String) (attributes : List (String × String))
  | closing (tag : String)
  | character (c : Char)

def MarkupItem.isTag : MarkupItem → Bool
  | opening _ _ => true
  | closing _ => true
  | character _ => false

/-- The text in which entities stand for characters. -/
def unescapeMarkup : List Char → List Char
  | '&' :: 'a' :: 'm' :: 'p' :: ';' :: s => '&' :: unescapeMarkup s
  | '&' :: 'l' :: 't' :: ';' :: s => '<' :: unescapeMarkup s
  | '&' :: 'g' :: 't' :: ';' :: s => '>' :: unescapeMarkup s
  | '&' :: 'q' :: 'u' :: 'o' :: 't' :: ';' :: s => '"' :: unescapeMarkup s
  | c :: s => c :: unescapeMarkup s
  | [] => []

/-- Cuts a text at each `<...>`: the text in front of the first one, and the inside of each with the
text behind it. -/
def cutTags : List Char → List Char × List (List Char × List Char)
  | [] => ([], [])
  | c :: s =>
    if c = '<' then
      let (text, tags) := cutTags (s.dropWhile (· ≠ '>')).tail
      ([], (s.takeWhile (· ≠ '>'), text) :: tags)
    else
      let (text, tags) := cutTags s
      (c :: text, tags)
termination_by s => s.length
decreasing_by
  · have := List.length_dropWhile_le (fun c => decide (c ≠ '>')) s
    simp only [List.length_tail, List.length_cons]
    omega
  · simp

/-- A character of the name of an attribute. -/
def isAttributeChar (c : Char) : Bool :=
  c != '=' && !isWhite c

/-- An attribute, which is a name with a quoted value, and the text behind it. -/
def readAttribute? (s : List Char) : Option ((String × String) × List Char) :=
  match s.dropWhile isAttributeChar with
  | '=' :: '"' :: quoted =>
    match quoted.dropWhile (· ≠ '"') with
    | _ :: rest =>
      some ((String.ofList (s.takeWhile isAttributeChar),
        String.ofList (unescapeMarkup (quoted.takeWhile (· ≠ '"')))), rest)
    | [] => none
  | _ => none

theorem length_of_readAttribute? {s rest : List Char} {a : String × String}
    (h : readAttribute? s = some (a, rest)) : rest.length < s.length := by
  unfold readAttribute? at h
  split at h
  · next quoted hname =>
    split at h
    · next hvalue =>
      have hle := List.length_dropWhile_le isAttributeChar s
      have hle' := List.length_dropWhile_le (fun c => decide (c ≠ '"')) quoted
      rw [hname] at hle
      rw [hvalue] at hle'
      simp only [List.length_cons] at hle hle'
      obtain ⟨-, rfl⟩ := Prod.mk.inj (Option.some.inj h)
      omega
    · cases h
  · cases h

/-- The attributes of a tag, with white space around them. -/
def readAttributes? (s : List Char) : Option (List (String × String)) :=
  if (s.dropWhile isWhite).isEmpty then some []
  else
    match _h : readAttribute? (s.dropWhile isWhite) with
    | some (a, rest) => (readAttributes? rest).map (a :: ·)
    | none => none
termination_by s.length
decreasing_by
  have := length_of_readAttribute? _h
  have := List.length_dropWhile_le isWhite s
  omega

/-- What stands inside of `<...>`. -/
def readTag? : List Char → Option MarkupItem
  | '/' :: tag => some (.closing (String.ofList tag))
  | s => (readAttributes? (s.dropWhile fun c => !isWhite c)).map
      (.opening (String.ofList (s.takeWhile fun c => !isWhite c)) ·)

def readText (s : List Char) : List MarkupItem :=
  (unescapeMarkup s).map .character

/-- The tags and texts that are read in a text. -/
def readMarkup? (s : List Char) : Option (List MarkupItem) :=
  ((cutTags s).2.mapM fun tag => (readTag? tag.1).map (· :: readText tag.2)).map fun items =>
    readText (cutTags s).1 ++ items.flatten

/-! ## Tags and texts of a component -/

namespace ComponentNode

mutual

/-- The tags and texts of a node in document order. -/
def items : ComponentNode → List MarkupItem
  | .text s => s.toList.map .character
  | .element tag attributes children _ =>
    .opening tag attributes.toList ::
      if voidTags.contains tag then [] else listItems children ++ [.closing tag]

def listItems : List ComponentNode → List MarkupItem
  | [] => []
  | n :: rest => items n ++ listItems rest

end

/-- What stands around names in a tag. -/
def nameEnds : List Char :=
  ['"', '\'', '<', '>', '=', '/']

/-- A text that can stand in a tag as a name. -/
def IsName (s : String) : Prop :=
  s ≠ "" ∧ s.toList.all fun c => !isWhite c && !nameEnds.contains c

instance (s : String) : Decidable (IsName s) :=
  inferInstanceAs (Decidable (_ ∧ _))

/-- A node without raw markup, whose tags and attributes have names. -/
inductive Named : ComponentNode → Prop where
  | text (s : String) : Named (.text s)
  | element {tag : String} {attributes : TextMap} {children : List ComponentNode}
      (tag_name : IsName tag) (attribute_names : ∀ a ∈ attributes.toList, IsName a.1)
      (children_named : ∀ n ∈ children, Named n) : Named (.element tag attributes children none)

mutual

/-- The tags and texts of a node, with white space around the children of an element unless all of
them are inline. -/
inductive Spaced : ComponentNode → List MarkupItem → Prop where
  | exact (n : ComponentNode) : Spaced n n.items
  | block {tag : String} {attributes : TextMap} {children : List ComponentNode}
      {inner : List MarkupItem} (notVoid : ¬ voidTags.contains tag)
      (notInline : ¬ children.all isInline) (children_spaced : SpacedLines children inner) :
      Spaced (.element tag attributes children none)
        (.opening tag attributes.toList :: (inner ++ [.closing tag]))

inductive SpacedLines : List ComponentNode → List MarkupItem → Prop where
  | nil {space : List Char} (white : ∀ c ∈ space, isWhite c) :
      SpacedLines [] (space.map .character)
  | cons {n : ComponentNode} {rest : List ComponentNode} {space : List Char}
      {first others : List MarkupItem} (white : ∀ c ∈ space, isWhite c) (node : Spaced n first)
      (lines : SpacedLines rest others) :
      SpacedLines (n :: rest) (space.map .character ++ (first ++ others))

end

end ComponentNode

/-! ## Texts -/

@[simp]
theorem unescapeMarkup_cons {c : Char} (hc : c ≠ '&') (s : List Char) :
    unescapeMarkup (c :: s) = c :: unescapeMarkup s := by
  rw [unescapeMarkup]
  all_goals simp [hc]

theorem unescapeMarkup_escapeChar (c : Char) (s : List Char) :
    unescapeMarkup (escapeChar c ++ s) = c :: unescapeMarkup s := by
  unfold escapeChar
  split
  · simp [unescapeMarkup]
  · simp [unescapeMarkup]
  · simp [unescapeMarkup]
  · simp [unescapeMarkup]
  · next hamp _ _ _ => exact unescapeMarkup_cons hamp s

theorem unescapeMarkup_escapeMarkup (s rest : List Char) :
    unescapeMarkup (escapeMarkup s ++ rest) = s ++ unescapeMarkup rest := by
  induction s with
  | nil => rfl
  | cons c s ih =>
    rw [escapeMarkup, List.flatMap_cons, List.append_assoc, unescapeMarkup_escapeChar,
      List.cons_append]
    exact congrArg (c :: ·) ih

/-- Nothing that is escaped opens or ends a tag or a value. -/
theorem notMem_escapeMarkup {c : Char} (hc : c ∈ ['<', '>', '"']) (s : List Char) :
    c ∉ escapeMarkup s := by
  intro hmem
  obtain ⟨d, -, hd⟩ := List.mem_flatMap.mp hmem
  simp only [List.mem_cons, List.not_mem_nil, or_false] at hc
  unfold escapeChar at hd
  split at hd
  case h_5 hlt hgt hquot =>
    obtain rfl := List.mem_singleton.mp hd
    exact hc.elim hlt fun h => h.elim hgt hquot
  all_goals obtain rfl | rfl | rfl := hc <;> simp at hd

/-! ## Texts that are read piece by piece -/

/-- A text is read as some tags and texts, whatever stands behind it. -/
def Reads (s : List Char) (items : List MarkupItem) : Prop :=
  ∀ rest, readMarkup? (s ++ rest) = (readMarkup? rest).map (items ++ ·)

theorem cutTags_append {s : List Char} (h : '<' ∉ s) (rest : List Char) :
    cutTags (s ++ rest) = (s ++ (cutTags rest).1, (cutTags rest).2) := by
  induction s with
  | nil => rfl
  | cons c s ih =>
    rw [List.mem_cons, not_or] at h
    rw [List.cons_append, cutTags, if_neg (Ne.symm h.1), ih h.2]
    rfl

theorem cutTags_tag {inside : List Char} (h : '>' ∉ inside) (rest : List Char) :
    cutTags ('<' :: (inside ++ '>' :: rest))
      = ([], (inside, (cutTags rest).1) :: (cutTags rest).2) := by
  have hall : ∀ c ∈ inside, decide (c ≠ '>') = true := by
    intro c hc
    simp only [decide_eq_true_eq]
    rintro rfl
    exact h hc
  rw [cutTags, if_pos rfl, List.takeWhile_append_of_pos hall, List.dropWhile_append_of_pos hall]
  simp

theorem reads_nil : Reads [] [] := by
  intro rest
  simp

theorem Reads.append {s t : List Char} {items others : List MarkupItem} (hs : Reads s items)
    (ht : Reads t others) : Reads (s ++ t) (items ++ others) := by
  intro rest
  rw [List.append_assoc, hs, ht, Option.map_map]
  simp [Function.comp_def]

theorem Reads.readMarkup?_eq {s : List Char} {items : List MarkupItem} (h : Reads s items) :
    readMarkup? s = some items := by
  have hread := h []
  simpa [readMarkup?, cutTags, readText, unescapeMarkup] using hread

/-- A text without tags. -/
theorem reads_of_unescapeMarkup {s t : List Char} (hs : '<' ∉ s)
    (h : ∀ rest, unescapeMarkup (s ++ rest) = t ++ unescapeMarkup rest) :
    Reads s (t.map .character) := by
  intro rest
  rw [readMarkup?, readMarkup?, cutTags_append hs, Option.map_map]
  simp [Function.comp_def, readText, h]

theorem reads_escapeMarkup (s : List Char) : Reads (escapeMarkup s) (s.map .character) :=
  reads_of_unescapeMarkup (notMem_escapeMarkup (by simp) s) (unescapeMarkup_escapeMarkup s)

theorem reads_space {s : List Char} (h : ∀ c ∈ s, isWhite c) : Reads s (s.map .character) := by
  refine reads_of_unescapeMarkup (fun hlt => absurd (h '<' hlt) (by decide)) fun rest => ?_
  induction s with
  | nil => rfl
  | cons c s ih =>
    obtain ⟨hc, hs⟩ := List.forall_mem_cons.mp h
    have hamp : c ≠ '&' := by
      rintro rfl
      exact absurd hc (by decide)
    rw [List.cons_append, unescapeMarkup_cons hamp, ih hs, List.cons_append]

theorem reads_tag {inside : List Char} {item : MarkupItem} (h : '>' ∉ inside)
    (hread : readTag? inside = some item) : Reads ('<' :: (inside ++ ['>'])) [item] := by
  intro rest
  have hcut := cutTags_tag h rest
  rw [List.cons_append, List.append_assoc, List.singleton_append, readMarkup?, readMarkup?, hcut,
    List.mapM_cons, hread, Option.map_map]
  cases hrest : (cutTags rest).2.mapM fun tag => (readTag? tag.1).map (· :: readText tag.2) with
  | none => simp
  | some items => simp [readText, unescapeMarkup]

/-! ## Tags -/

namespace ComponentNode

/-- How an attribute is written. -/
def attributeText (a : String × String) : List Char :=
  ' ' :: (a.1.toList ++ '=' :: '"' :: (escapeMarkup a.2.toList ++ ['"']))

theorem openTag_eq (tag : String) (attributes : TextMap) :
    openTag tag attributes
      = '<' :: ((tag.toList ++ attributes.toList.flatMap attributeText) ++ ['>']) :=
  rfl

theorem closeTag_eq (tag : String) : closeTag tag = '<' :: (('/' :: tag.toList) ++ ['>']) :=
  rfl

theorem IsName.forall_not_isWhite {s : String} (h : IsName s) :
    ∀ c ∈ s.toList, (!isWhite c) = true :=
  fun c hc => (Bool.and_eq_true_iff.mp (List.all_eq_true.mp h.2 c hc)).1

theorem IsName.notMem {s : String} (h : IsName s) {c : Char} (hc : c ∈ nameEnds) :
    c ∉ s.toList := by
  intro hmem
  have hnot := (Bool.and_eq_true_iff.mp (List.all_eq_true.mp h.2 c hmem)).2
  simp [hc] at hnot

theorem IsName.toList_ne_nil {s : String} (h : IsName s) : s.toList ≠ [] := by
  simpa using h.1

theorem IsName.forall_isAttributeChar {s : String} (h : IsName s) :
    ∀ c ∈ s.toList, isAttributeChar c = true := by
  intro c hc
  have heq : c ≠ '=' := by
    rintro rfl
    exact h.notMem (by decide) hc
  simp [isAttributeChar, heq, h.forall_not_isWhite c hc]

theorem readAttribute?_attributeText {a : String × String} (h : IsName a.1) (rest : List Char) :
    readAttribute? (a.1.toList ++ '=' :: '"' :: (escapeMarkup a.2.toList ++ '"' :: rest))
      = some (a, rest) := by
  have hname := h.forall_isAttributeChar
  have hvalue : ∀ c ∈ escapeMarkup a.2.toList, decide (c ≠ '"') = true := by
    intro c hc
    simp only [decide_eq_true_eq]
    rintro rfl
    exact notMem_escapeMarkup (by simp) _ hc
  have hend : isAttributeChar '=' = false := by decide
  have hread : unescapeMarkup (escapeMarkup a.2.toList) = a.2.toList := by
    simpa [unescapeMarkup] using unescapeMarkup_escapeMarkup a.2.toList []
  rw [readAttribute?, List.dropWhile_append_of_pos hname, List.takeWhile_append_of_pos hname,
    List.dropWhile_cons_of_neg (by simp [hend]), List.takeWhile_cons_of_neg (by simp [hend])]
  simp only []
  rw [List.dropWhile_append_of_pos hvalue, List.takeWhile_append_of_pos hvalue,
    List.dropWhile_cons_of_neg (by simp), List.takeWhile_cons_of_neg (by simp)]
  simp [hread]

theorem readAttributes?_of_readAttribute? {s rest : List Char} {a : String × String}
    (h : readAttribute? (s.dropWhile isWhite) = some (a, rest)) :
    readAttributes? s = (readAttributes? rest).map (a :: ·) := by
  rw [readAttributes?, if_neg]
  · split
    · next heq =>
      rw [h] at heq
      obtain ⟨rfl, rfl⟩ := Prod.mk.inj (Option.some.inj heq)
      rfl
    · next heq => simp [h] at heq
  · intro hempty
    rw [List.isEmpty_iff.mp hempty] at h
    simp [readAttribute?] at h

theorem readAttributes?_attributeTexts {attributes : List (String × String)}
    (h : ∀ a ∈ attributes, IsName a.1) :
    readAttributes? (attributes.flatMap attributeText) = some attributes := by
  induction attributes with
  | nil =>
    rw [readAttributes?]
    rfl
  | cons a rest ih =>
    obtain ⟨ha, hrest⟩ := List.forall_mem_cons.mp h
    obtain ⟨c, s, hname⟩ := List.exists_cons_of_ne_nil ha.toList_ne_nil
    have hfirst : isWhite c = false := by
      simpa using ha.forall_not_isWhite c (by simp [hname])
    have hdrop : ((a :: rest).flatMap attributeText).dropWhile isWhite
        = a.1.toList ++ '=' :: '"' :: (escapeMarkup a.2.toList ++ '"' ::
            rest.flatMap attributeText) := by
      have hspace : isWhite ' ' = true := by decide
      simp [attributeText, hspace, hname, hfirst]
    rw [readAttributes?_of_readAttribute? (hdrop ▸ readAttribute?_attributeText ha _), ih hrest,
      Option.map_some]

/-- The attributes of a tag start with white space, or there are none. -/
theorem dropWhile_attributeTexts (attributes : List (String × String)) :
    (attributes.flatMap attributeText).dropWhile (fun c => !isWhite c)
      = attributes.flatMap attributeText := by
  cases attributes with
  | nil => rfl
  | cons a rest =>
    have hspace : isWhite ' ' = true := by decide
    simp [attributeText, hspace]

theorem readTag?_opening {tag : String} {attributes : TextMap} (htag : IsName tag)
    (hattributes : ∀ a ∈ attributes.toList, IsName a.1) :
    readTag? (tag.toList ++ attributes.toList.flatMap attributeText)
      = some (.opening tag attributes.toList) := by
  have hname := htag.forall_not_isWhite
  have htake : (attributes.toList.flatMap attributeText).takeWhile (fun c => !isWhite c) = [] := by
    simpa [dropWhile_attributeTexts] using List.takeWhile_append_dropWhile
      (p := fun c => !isWhite c) (l := attributes.toList.flatMap attributeText)
  obtain ⟨c, s, hcons⟩ := List.exists_cons_of_ne_nil htag.toList_ne_nil
  have hslash : c ≠ '/' := by
    rintro rfl
    exact htag.notMem (c := '/') (by decide) (by simp [hcons])
  rw [readTag?]
  · rw [List.dropWhile_append_of_pos hname, List.takeWhile_append_of_pos hname,
      dropWhile_attributeTexts, readAttributes?_attributeTexts hattributes, htake]
    simp
  · rw [hcons]
    intro rest hrest
    exact hslash (List.cons.inj hrest).1

theorem reads_openTag {tag : String} {attributes : TextMap} (htag : IsName tag)
    (hattributes : ∀ a ∈ attributes.toList, IsName a.1) :
    Reads (openTag tag attributes) [.opening tag attributes.toList] := by
  rw [openTag_eq]
  refine reads_tag ?_ (readTag?_opening htag hattributes)
  rw [List.mem_append, not_or]
  refine ⟨htag.notMem (by decide), fun hmem => ?_⟩
  obtain ⟨a, ha, hmem⟩ := List.mem_flatMap.mp hmem
  have hname := (hattributes a ha).notMem (c := '>') (by decide)
  have hvalue := notMem_escapeMarkup (c := '>') (by simp) a.2.toList
  simp [attributeText, hname, hvalue] at hmem

theorem reads_closeTag {tag : String} (htag : IsName tag) :
    Reads (closeTag tag) [.closing tag] := by
  rw [closeTag_eq]
  refine reads_tag ?_ (by simp [readTag?])
  simpa using htag.notMem (c := '>') (by decide)

theorem Named.of_element {tag : String} {attributes : TextMap} {children : List ComponentNode}
    {raw : Option String} (h : (ComponentNode.element tag attributes children raw).Named) :
    IsName tag ∧ (∀ a ∈ attributes.toList, IsName a.1) ∧ ∀ n ∈ children, n.Named := by
  cases h with
  | element htag hattributes hchildren => exact ⟨htag, hattributes, hchildren⟩

theorem Named.raw_eq {tag : String} {attributes : TextMap} {children : List ComponentNode}
    {raw : Option String} (h : (ComponentNode.element tag attributes children raw).Named) :
    raw = none := by
  cases h
  rfl

/-! ## Nodes in the line of a text -/

mutual

theorem reads_renderInline : ∀ n : ComponentNode, n.Named → Reads (renderInline n) n.items
  | .text s, _ => by
    rw [renderInline, items]
    exact reads_escapeMarkup s.toList
  | .element tag attributes children raw, h => by
    obtain ⟨htag, hattributes, hchildren⟩ := h.of_element
    rw [renderInline, items, ← List.singleton_append]
    refine (reads_openTag htag hattributes).append ?_
    split
    · exact reads_nil
    · exact (reads_renderInlines children hchildren).append (reads_closeTag htag)

theorem reads_renderInlines : ∀ nodes : List ComponentNode, (∀ n ∈ nodes, n.Named) →
    Reads (renderInlines nodes) (listItems nodes)
  | [], _ => by
    rw [renderInlines, listItems]
    exact reads_nil
  | n :: rest, h => by
    rw [renderInlines, listItems]
    exact (reads_renderInline n (h n (by simp))).append
      (reads_renderInlines rest fun r hr => h r (by simp [hr]))

end

/-! ## Nodes in lines of their own -/

theorem isWhite_of_mem_lineFeed : ∀ c ∈ ['\n'], isWhite c :=
  List.forall_mem_singleton.mpr (by decide)

theorem isWhite_of_mem_indentation {depth : Nat} : ∀ c ∈ indentation depth, isWhite c := by
  intro c hc
  obtain ⟨-, rfl⟩ := List.mem_replicate.mp hc
  decide

/-- An element whose children are written in its line. -/
theorem reads_inlineElement {tag : String} {attributes : TextMap} {children : List ComponentNode}
    (htag : IsName tag) (hattributes : ∀ a ∈ attributes.toList, IsName a.1)
    (hchildren : ∀ n ∈ children, n.Named) (hvoid : ¬ voidTags.contains tag) :
    Reads (openTag tag attributes ++ (renderInlines children ++ closeTag tag))
      (items (.element tag attributes children none)) := by
  rw [items, if_neg hvoid, ← List.singleton_append]
  exact (reads_openTag htag hattributes).append
    ((reads_renderInlines children hchildren).append (reads_closeTag htag))

mutual

theorem spaced_render : ∀ (n : ComponentNode) (depth : Nat), n.Named →
    ∃ items, Spaced n items ∧ Reads (render depth n) items
  | .text s, depth, _ => by
    refine ⟨_, .exact (.text s), ?_⟩
    rw [render, items]
    exact reads_escapeMarkup s.toList
  | .element tag attributes children raw, depth, h => by
    obtain ⟨htag, hattributes, hchildren⟩ := h.of_element
    obtain rfl := h.raw_eq
    rw [render]
    by_cases hvoid : voidTags.contains tag
    · refine ⟨_, .exact _, ?_⟩
      rw [if_pos hvoid, items, if_pos hvoid, List.append_nil]
      exact reads_openTag htag hattributes
    · rw [if_neg hvoid]
      by_cases hinline : children.all isInline
      · refine ⟨_, .exact _, ?_⟩
        rw [if_pos hinline]
        exact reads_inlineElement htag hattributes hchildren hvoid
      · -- The line break in front of the children and the indentation behind them are theirs.
        obtain ⟨inner, hinner, hreads⟩ := spaced_renderLines children (depth + 1) ['\n'] _ hchildren
          isWhite_of_mem_lineFeed isWhite_of_mem_indentation
        refine ⟨_, .block hvoid hinline hinner, ?_⟩
        rw [if_neg hinline, ← List.singleton_append (l := inner ++ _)]
        refine (reads_openTag htag hattributes).append ?_
        exact hreads.append (reads_closeTag htag)

/-- Nodes one below the other, with white space in front of them and behind them. -/
theorem spaced_renderLines : ∀ (nodes : List ComponentNode) (depth : Nat)
    (before after : List Char), (∀ n ∈ nodes, n.Named) → (∀ c ∈ before, isWhite c) →
    (∀ c ∈ after, isWhite c) →
    ∃ items, SpacedLines nodes items ∧ Reads (before ++ (renderLines depth nodes ++ after)) items
  | [], depth, before, after, _, hbefore, hafter => by
    have hwhite : ∀ c ∈ before ++ after, isWhite c := List.forall_mem_append.mpr ⟨hbefore, hafter⟩
    refine ⟨_, .nil hwhite, ?_⟩
    rw [renderLines, List.nil_append]
    exact reads_space hwhite
  | n :: rest, depth, before, after, h, hbefore, hafter => by
    obtain ⟨first, hfirst, hreads⟩ := spaced_render n depth (h n (by simp))
    -- The line break behind a node is white space in front of the next one.
    obtain ⟨others, hothers, hreadsRest⟩ := spaced_renderLines rest depth ['\n'] after
      (fun r hr => h r (by simp [hr])) isWhite_of_mem_lineFeed hafter
    have hwhite : ∀ c ∈ before ++ indentation depth, isWhite c :=
      List.forall_mem_append.mpr ⟨hbefore, isWhite_of_mem_indentation⟩
    refine ⟨_, .cons hwhite hfirst hothers, ?_⟩
    rw [renderLines]
    simpa using (reads_space hwhite).append (hreads.append hreadsRest)

end

/-! ### White space between tags -/

theorem filter_isTag_characters (s : List Char) :
    (s.map MarkupItem.character).filter MarkupItem.isTag = [] := by
  rw [List.filter_eq_nil_iff]
  intro item hitem
  obtain ⟨c, -, rfl⟩ := List.mem_map.mp hitem
  simp [MarkupItem.isTag]

mutual

/-- White space leaves the tags as they are. -/
theorem Spaced.filter_isTag : ∀ {n : ComponentNode} {found : List MarkupItem}, Spaced n found →
    found.filter MarkupItem.isTag = n.items.filter MarkupItem.isTag
  | _, _, .exact _ => rfl
  | _, _, .block hvoid _ hinner => by
    rw [items, if_neg hvoid, List.filter_cons, List.filter_cons, List.filter_append,
      List.filter_append, hinner.filter_isTag]

theorem SpacedLines.filter_isTag : ∀ {nodes : List ComponentNode} {found : List MarkupItem},
    SpacedLines nodes found →
    found.filter MarkupItem.isTag = (listItems nodes).filter MarkupItem.isTag
  | _, _, .nil _ => filter_isTag_characters _
  | _, _, .cons _ hfirst hothers => by
    rw [listItems, List.filter_append, List.filter_append, List.filter_append,
      filter_isTag_characters, hfirst.filter_isTag, hothers.filter_isTag, List.nil_append]

end

end ComponentNode

/-! ## Components -/

/-- What is written for a component without raw markup reads as its tags in document order, with
its texts between them and white space around the lines. -/
theorem ComponentTree.readMarkup?_render {t : ComponentTree} (h : ∀ n ∈ t.roots, n.Named) :
    ∃ items, readMarkup? t.render.toList = some items
      ∧ ComponentNode.SpacedLines t.roots items
      ∧ items.filter MarkupItem.isTag
          = (ComponentNode.listItems t.roots).filter MarkupItem.isTag := by
  obtain ⟨items, hspaced, hreads⟩ := ComponentNode.spaced_renderLines t.roots 0 [] [] h
    (by simp) (by simp)
  rw [List.nil_append, List.append_nil] at hreads
  refine ⟨items, ?_, hspaced, hspaced.filter_isTag⟩
  rw [ComponentTree.render, String.toList_ofList, hreads.readMarkup?_eq]

/-- A division with a paragraph of two lines in it. -/
def ComponentTree.comparison : ComponentTree where
  name := "Comparison"
  roots := [.element "div" ((∅ : TextMap).insert "title" "\"a\" > b") [
    .element "p" ∅ [.text "1 < 2", .element "br" ∅ [] none, .text " & so on"] none] none]

theorem ComponentTree.readMarkup?_render_comparison :
    (∀ n ∈ comparison.roots, n.Named)
      ∧ comparison.render = "<div title=\"&quot;a&quot; &gt; b\">\n"
          ++ "  <p>1 &lt; 2<br> &amp; so on</p>\n</div>\n"
      ∧ ∃ items, readMarkup? comparison.render.toList = some items
          ∧ ComponentNode.SpacedLines comparison.roots items
          ∧ items.filter MarkupItem.isTag = [.opening "div" [("title", "\"a\" > b")],
              .opening "p" [], .opening "br" [], .closing "p", .closing "div"] := by
  have hnamed : ∀ n ∈ comparison.roots, n.Named := by
    refine List.forall_mem_singleton.mpr (.element (by decide) (by decide) ?_)
    refine List.forall_mem_singleton.mpr (.element (by decide) (by simp) ?_)
    simp only [List.forall_mem_cons, List.not_mem_nil, false_implies, implies_true, and_true]
    exact ⟨.text _, .element (by decide) (by simp) (by simp), .text _⟩
  refine ⟨hnamed, by decide, ?_⟩
  obtain ⟨items, hread, hspaced, htags⟩ := readMarkup?_render hnamed
  exact ⟨items, hread, hspaced, htags.trans rfl⟩

end SceneCompiler
