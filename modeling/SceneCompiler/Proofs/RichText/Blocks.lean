import Mathlib
import SceneCompiler.Proofs.RichText.Lines
import SceneCompiler.Proofs.RichText.Runs
/-!
# Blocks of a text

The runs of all blocks are the segments cut at their line breaks: no character is lost or new, and
each visible one looks as its segment does. The lines are those of the whole text, however it is cut
into segments, unless a CR ends one segment and its LF starts the next: then an empty line comes
between them.

* `carries_blocks`: what the blocks of a text are.
* `lineTexts_eq_iff`: when the lines are those of the whole text.
-/

namespace SceneCompiler

/-! ## Lines of the same kind -/

theorem flatMap_lines_groupBlocks (lines : List TextLine) :
    (groupBlocks lines).flatMap (·.lines) = lines := by
  induction lines with
  | nil => rfl
  | cons line rest ih =>
    rw [groupBlocks]
    split
    · next h =>
      rw [h] at ih
      rw [← ih]
      rfl
    · next block blocks h =>
      rw [h, List.flatMap_cons] at ih
      split
      · rw [List.flatMap_cons, List.cons_append, ih]
      · rw [List.flatMap_cons, List.flatMap_cons, ih, List.singleton_append]

theorem lines_ne_nil_of_mem_groupBlocks (lines : List TextLine) :
    ∀ b ∈ groupBlocks lines, b.lines ≠ [] := by
  induction lines with
  | nil => simp [groupBlocks]
  | cons line rest ih =>
    rw [groupBlocks]
    split
    · simp
    · next block blocks h =>
      rw [h] at ih
      obtain ⟨-, hblocks⟩ := List.forall_mem_cons.mp ih
      split
      · exact List.forall_mem_cons.mpr ⟨by simp, hblocks⟩
      · exact List.forall_mem_cons.mpr ⟨by simp, ih⟩

theorem isChain_groupBlocks (lines : List TextLine) :
    (groupBlocks lines).IsChain fun b next => b.kind ≠ next.kind := by
  induction lines with
  | nil => exact List.isChain_nil
  | cons line rest ih =>
    rw [groupBlocks]
    split
    · exact List.isChain_singleton _
    · next block blocks h =>
      rw [h] at ih
      split
      · rwa [List.isChain_cons] at ih ⊢
      · next hkind => exact List.isChain_cons_cons.mpr ⟨Ne.symm hkind, ih⟩

/-! ## Runs of all blocks -/

/-- The runs of some blocks, in the order of the text. -/
def blockRuns (blocks : List TextBlock) : List TextRun :=
  blocks.flatMap fun b => b.lines.flatMap (·.runs)

/-- A line with its blank runs changed and its runs merged. -/
def TextLine.merged (line : TextLine) : TextLine :=
  { line with runs := TextRun.merge (TextRun.applySticky line.runs) }

theorem flatMap_lines_blocks (content : TextContent) :
    content.blocks.flatMap (·.lines) = (splitLines content.segments).map TextLine.merged :=
  flatMap_lines_groupBlocks _

/-- What merging keeps of the runs of a line. -/
theorem flatMap_runs_merged {α : Type} {f : TextRun → List α}
    (hstick : ∀ left r right, f (TextRun.stick left r right) = f r)
    (hjoin : ∀ a b, TextRun.mergeable a b → f (TextRun.join a b) = f a ++ f b) (line : TextLine) :
    line.merged.runs.flatMap f = line.runs.flatMap f := by
  rw [TextLine.merged, TextRun.flatMap_merge hjoin, List.flatMap_def,
    TextRun.map_applySticky hstick, ← List.flatMap_def]

/-- What merging keeps is in the runs of all blocks as it is in the pieces of the segments. -/
theorem flatMap_blockRuns_blocks {α : Type} {f : TextRun → List α}
    (hstick : ∀ left r right, f (TextRun.stick left r right) = f r)
    (hjoin : ∀ a b, TextRun.mergeable a b → f (TextRun.join a b) = f a ++ f b)
    (hempty : ∀ s : StyledSegment, f (s.run []) = []) (content : TextContent) :
    (blockRuns content.blocks).flatMap f = content.segments.flatMap fun s =>
      (splitBreaks s.characters.toList).flatMap fun piece => f (s.run piece) := by
  have hpiece : ∀ (s : StyledSegment) (piece : List Char),
      (s.pieceRuns piece).flatMap f = f (s.run piece) := by
    intro s piece
    unfold StyledSegment.pieceRuns
    split
    · next h =>
      obtain rfl : piece = [] := by simp_all
      rw [hempty, List.flatMap_nil]
    · exact List.flatMap_singleton _ _
  calc (blockRuns content.blocks).flatMap f
      = (content.blocks.flatMap (·.lines)).flatMap fun line => line.runs.flatMap f := by
        simp only [blockRuns, List.flatMap_assoc]
    _ = (splitLines content.segments).flatMap fun line => line.runs.flatMap f := by
        rw [flatMap_lines_blocks, List.flatMap_map]
        simp only [flatMap_runs_merged hstick hjoin]
    _ = ((splitLines content.segments).flatMap (·.runs)).flatMap f := List.flatMap_assoc.symm
    _ = _ := by
        rw [runs_splitLines]
        simp only [List.flatMap_assoc, hpiece]

/-! ## What the blocks carry -/

def StyledSegment.look (s : StyledSegment) : TextLook where
  marks := s.marks
  attributes := s.attributes
  link := s.hyperlink

theorem isWhite_of_isLineBreak {c : Char} (h : isLineBreak c) : isWhite c := by
  simp only [isLineBreak, Bool.or_eq_true, beq_iff_eq] at h
  rcases h with ((rfl | rfl) | rfl) | rfl <;> decide

/-- The visible characters of the pieces of a text are those of the text. -/
theorem flatMap_visibleCharacters_splitBreaks (look : TextLook) (s : List Char) :
    (splitBreaks s).flatMap (visibleCharacters look) = visibleCharacters look s := by
  have hflatten : ∀ pieces : List (List Char),
      pieces.flatMap (visibleCharacters look) = visibleCharacters look pieces.flatten := by
    intro pieces
    induction pieces with
    | nil => rfl
    | cons piece rest ih =>
      rw [List.flatMap_cons, ih, List.flatten_cons, visibleCharacters_append]
  rw [hflatten, flatten_splitBreaks, visibleCharacters, List.filter_filter, visibleCharacters]
  congr 1
  refine List.filter_congr fun c _ => ?_
  cases hbreak : isLineBreak c with
  | true => simp [isWhite_of_isLineBreak hbreak]
  | false => simp

/-- The blocks hold the text of some segments, as they style it, in as few runs and blocks as the
rules for merging allow. -/
structure Carries (segments : List StyledSegment) (blocks : List TextBlock) : Prop where
  /-- No character is lost or new, but for the line breaks. -/
  text : (blockRuns blocks).flatMap (·.text.toList)
    = (segmentText segments).filter fun c => !isLineBreak c
  unbroken : ∀ r ∈ blockRuns blocks, ∀ c ∈ r.text.toList, ¬ isLineBreak c
  /-- Each visible character has the marks, the attributes and the link of its own segment. -/
  looks : (blockRuns blocks).flatMap TextRun.visible
    = segments.flatMap fun s => visibleCharacters s.look s.characters.toList
  merged : ∀ b ∈ blocks, ∀ line ∈ b.lines,
    line.runs.IsChain fun r next => ¬ TextRun.mergeable r next
  filled : ∀ b ∈ blocks, b.lines ≠ []
  grouped : blocks.IsChain fun b next => b.kind ≠ next.kind

theorem carries_blocks (content : TextContent) : Carries content.segments content.blocks := by
  have htext : (blockRuns content.blocks).flatMap (·.text.toList)
      = (segmentText content.segments).filter fun c => !isLineBreak c := by
    rw [flatMap_blockRuns_blocks (fun left r right => by rw [TextRun.text_stick])
      (fun a b _ => TextRun.toList_text_join a b) (fun _ => by simp [StyledSegment.run]),
      segmentText, List.filter_flatMap]
    refine List.flatMap_congr fun s _ => ?_
    rw [← flatten_splitBreaks]
    simp [StyledSegment.run, List.flatMap_def]
  constructor
  case text => exact htext
  case unbroken =>
    intro r hr c hc
    have hmem : c ∈ (blockRuns content.blocks).flatMap (·.text.toList) :=
      List.mem_flatMap.mpr ⟨r, hr, hc⟩
    rw [htext] at hmem
    simpa using (List.mem_filter.mp hmem).2
  case looks =>
    rw [flatMap_blockRuns_blocks TextRun.visible_stick (fun a b => TextRun.visible_join)
      (fun _ => rfl)]
    refine List.flatMap_congr fun s _ => ?_
    rw [← flatMap_visibleCharacters_splitBreaks]
    refine List.flatMap_congr fun piece _ => ?_
    rw [TextRun.visible, StyledSegment.run, String.toList_ofList]
    rfl
  case merged =>
    intro b hb line hline
    have hmem : line ∈ content.blocks.flatMap (·.lines) := List.mem_flatMap.mpr ⟨b, hb, hline⟩
    rw [flatMap_lines_blocks] at hmem
    obtain ⟨before, -, rfl⟩ := List.mem_map.mp hmem
    exact TextRun.isChain_merge _
  case filled => exact lines_ne_nil_of_mem_groupBlocks _
  case grouped => exact isChain_groupBlocks _

/-! ## Lines -/

/-- The texts of the lines, over all blocks. -/
def TextContent.lineTexts (content : TextContent) : List (List Char) :=
  (content.blocks.flatMap (·.lines)).map TextLine.text

theorem text_merged (line : TextLine) : line.merged.text = line.text :=
  flatMap_runs_merged (fun _ _ _ => by rw [TextRun.text_stick])
    (fun a b _ => TextRun.toList_text_join a b) line

theorem lineTexts_eq {content : TextContent} (h : ∀ s ∈ content.segments, s.characters ≠ "") :
    content.lineTexts = dropEmptyEnd (segmentPieces content.segments) := by
  have hmerged : TextLine.text ∘ TextLine.merged = TextLine.text := funext text_merged
  rw [TextContent.lineTexts, flatMap_lines_blocks, List.map_map, hmerged, map_text_splitLines h]

/-- The lines of a text that is cut into segments are those of the whole text exactly when no CR at
the end of a segment has its LF at the start of the next one. -/
theorem lineTexts_eq_iff {content : TextContent}
    (h : ∀ s ∈ content.segments, s.characters ≠ "") :
    content.lineTexts = dropEmptyEnd (splitBreaks (segmentText content.segments))
      ↔ content.segments.IsChain fun s next => ¬ s.CutsBreak next := by
  obtain ⟨hlast, -, hchain⟩ := segmentPieces_splitBreaks h
  rw [lineTexts_eq h]
  constructor
  · intro heq
    have hpieces := dropEmptyEnd_inj (segmentPieces_ne_nil _) (splitBreaks_ne_nil _) hlast heq
    exact hchain (by rw [hpieces])
  · intro hkept
    rw [segmentPieces_eq_splitBreaks h hkept]

/-- Breaks at the ends of segments, and one that is a pair of characters. -/
theorem lineTexts_of_pairs :
    let content : TextContent :=
      ⟨[{ characters := "a\r\n" }, { characters := "b\r", fontWeight := 700 },
        { characters := "\u2028c\n" }]⟩
    (∀ s ∈ content.segments, s.characters ≠ "")
      ∧ (content.segments.IsChain fun s next => ¬ s.CutsBreak next)
      ∧ content.lineTexts = [['a'], ['b'], [], ['c']] := by
  intro content
  have hne : ∀ s ∈ content.segments, s.characters ≠ "" := by simp [content]
  have hchain : content.segments.IsChain fun s next => ¬ s.CutsBreak next := by
    simp [content, StyledSegment.CutsBreak]
  refine ⟨hne, hchain, ?_⟩
  rw [(lineTexts_eq_iff hne).mpr hchain]
  decide

/-- A CR and its LF in two segments have an empty line between them that the whole text has not. -/
theorem lineTexts_of_cut_break :
    let content : TextContent := ⟨[{ characters := "a\r" }, { characters := "\nb" }]⟩
    (∀ s ∈ content.segments, s.characters ≠ "")
      ∧ content.lineTexts = [['a'], [], ['b']]
      ∧ dropEmptyEnd (splitBreaks (segmentText content.segments)) = [['a'], ['b']] := by
  intro content
  refine ⟨by simp [content], ?_, ?_⟩
  · decide
  · decide

end SceneCompiler
