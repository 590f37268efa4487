import Mathlib
import SceneCompiler.RichText.Block
/-!
# Lines of a text

A text is read segment by segment, and each segment is split at its line breaks on its own. The
pieces of a segment go on where the segment before it stopped, so the lines are the pieces of the
whole text, except that a CR and an LF in different segments are two breaks.

* `splitBreaks_append`, `splitBreaks_append_lineFeed`: the pieces of two texts one after the other.
* `addSegment_induction`: a segment is read piece by piece.
* `runs_addSegment`: what a segment adds to the runs.
* `pieces_addSegment`: what a segment adds to the lines.
* `map_text_splitLines`: the texts of all lines.
-/

namespace SceneCompiler

/-! ## Pieces between line breaks -/

/-- Texts by their line breaks: a CR with its LF, any other break, any other character. -/
@[elab_as_elim]
theorem lineBreak_induction {P : List Char → Prop} (nil : P [])
    (pair : ∀ s, P s → P ('\r' :: '\n' :: s))
    (lone : ∀ c s, isLineBreak c → ¬ (c = '\r' ∧ s.head? = some '\n') → P s → P (c :: s))
    (char : ∀ c s, isLineBreak c = false → P s → P (c :: s)) (s : List Char) : P s := by
  induction h : s.length using Nat.strong_induction_on generalizing s with
  | _ n ih =>
    cases s with
    | nil => exact nil
    | cons c s =>
      have hs : P s := ih s.length (by simp [← h]) s rfl
      by_cases hc : isLineBreak c
      · by_cases hpair : c = '\r' ∧ s.head? = some '\n'
        · obtain ⟨rfl, hlf⟩ := hpair
          obtain ⟨rest, rfl⟩ := List.head?_eq_some_iff.mp hlf
          exact pair rest (ih rest.length (by simp [← h]) rest rfl)
        · exact lone c s hc hpair hs
      · exact char c s (by simpa using hc) hs

theorem splitBreaks_ne_nil (s : List Char) : splitBreaks s ≠ [] := by
  cases s with
  | nil => simp [splitBreaks]
  | cons c s =>
    unfold splitBreaks
    split
    · split <;> simp
    · split <;> simp

theorem splitBreaks_lone {c : Char} {s : List Char} (hc : isLineBreak c)
    (hpair : ¬ (c = '\r' ∧ s.head? = some '\n')) : splitBreaks (c :: s) = [] :: splitBreaks s := by
  rw [splitBreaks, if_pos hc, if_neg hpair]

theorem splitBreaks_lineFeed (s : List Char) : splitBreaks ('\n' :: s) = [] :: splitBreaks s :=
  splitBreaks_lone (by decide) (by simp)

theorem splitBreaks_pair (s : List Char) :
    splitBreaks ('\r' :: '\n' :: s) = [] :: splitBreaks s := by
  rw [splitBreaks, if_pos (by decide), if_pos (by simp), splitBreaks_lineFeed, List.tail_cons]

theorem splitBreaks_char {c : Char} (hc : isLineBreak c = false) (s : List Char) :
    splitBreaks (c :: s) = (splitBreaks s).modifyHead (c :: ·) := by
  obtain ⟨piece, rest, h⟩ := List.exists_cons_of_ne_nil (splitBreaks_ne_nil s)
  rw [splitBreaks, if_neg (by simp [hc]), h, List.modifyHead_cons]

/-- The pieces together are the text without its line breaks. -/
theorem flatten_splitBreaks (s : List Char) :
    (splitBreaks s).flatten = s.filter fun c => !isLineBreak c := by
  induction s using lineBreak_induction with
  | nil => rfl
  | pair s ih =>
    have hcr : isLineBreak '\r' = true := by decide
    have hlf : isLineBreak '\n' = true := by decide
    rw [splitBreaks_pair, List.flatten_cons, ih]
    simp [hcr, hlf]
  | lone c s hc hpair ih =>
    rw [splitBreaks_lone hc hpair, List.flatten_cons, ih]
    simp [hc]
  | char c s hc ih =>
    obtain ⟨piece, rest, h⟩ := List.exists_cons_of_ne_nil (splitBreaks_ne_nil s)
    rw [splitBreaks_char hc, h, List.modifyHead_cons]
    rw [h] at ih
    simpa [hc] using ih

/-! ## Two texts one after the other -/

/-- Pieces, of which the last one goes on with the first of some further pieces. -/
def joinPieces : List (List Char) → List (List Char) → List (List Char)
  | [], further => further
  | [last], further => further.modifyHead (last ++ ·)
  | piece :: pieces, further => piece :: joinPieces pieces further

theorem joinPieces_cons {pieces : List (List Char)} (h : pieces ≠ []) (piece : List Char)
    (further : List (List Char)) :
    joinPieces (piece :: pieces) further = piece :: joinPieces pieces further := by
  cases pieces with
  | nil => exact absurd rfl h
  | cons second rest => rfl

theorem joinPieces_append_singleton (pieces : List (List Char)) (last : List Char)
    (further : List (List Char)) :
    joinPieces (pieces ++ [last]) further = pieces ++ further.modifyHead (last ++ ·) := by
  induction pieces with
  | nil => rfl
  | cons piece rest ih => rw [List.cons_append, joinPieces_cons (by simp), ih, List.cons_append]

theorem joinPieces_append (pieces : List (List Char)) {further : List (List Char)}
    (h : further ≠ []) (others : List (List Char)) :
    joinPieces pieces (further ++ others) = joinPieces pieces further ++ others := by
  obtain ⟨first, rest, rfl⟩ := List.exists_cons_of_ne_nil h
  cases pieces using List.reverseRecOn with
  | nil => rfl
  | append_singleton init last => simp [joinPieces_append_singleton]

/-- A break goes on with nothing. -/
theorem joinPieces_nil_cons {pieces : List (List Char)} (h : pieces ≠ [])
    (further : List (List Char)) : joinPieces pieces ([] :: further) = pieces ++ further := by
  obtain ⟨init, last, rfl⟩ := (List.eq_nil_or_concat' pieces).resolve_left h
  simp [joinPieces_append_singleton]

theorem joinPieces_ne_nil (pieces : List (List Char)) {further : List (List Char)}
    (h : further ≠ []) : joinPieces pieces further ≠ [] := by
  obtain ⟨first, rest, rfl⟩ := List.exists_cons_of_ne_nil h
  cases pieces using List.reverseRecOn with
  | nil => exact h
  | append_singleton init last => simp [joinPieces_append_singleton]

theorem length_joinPieces {pieces further : List (List Char)} (h : pieces ≠ [])
    (hfurther : further ≠ []) :
    (joinPieces pieces further).length + 1 = pieces.length + further.length := by
  obtain ⟨init, last, rfl⟩ := (List.eq_nil_or_concat' pieces).resolve_left h
  obtain ⟨first, rest, rfl⟩ := List.exists_cons_of_ne_nil hfurther
  simp [joinPieces_append_singleton]
  omega

theorem joinPieces_modifyHead {pieces further : List (List Char)} (h : pieces ≠ [])
    (hfurther : further ≠ []) (c : Char) :
    joinPieces (pieces.modifyHead (c :: ·)) further
      = (joinPieces pieces further).modifyHead (c :: ·) := by
  obtain ⟨first, rest, rfl⟩ := List.exists_cons_of_ne_nil h
  obtain ⟨next, others, rfl⟩ := List.exists_cons_of_ne_nil hfurther
  cases rest with
  | nil => rfl
  | cons second rest => rfl

/-- Two texts one after the other, unless they cut a CR from its LF. -/
theorem splitBreaks_append {s t : List Char}
    (h : ¬ (s.getLast? = some '\r' ∧ t.head? = some '\n')) :
    splitBreaks (s ++ t) = joinPieces (splitBreaks s) (splitBreaks t) := by
  induction s using lineBreak_induction with
  | nil =>
    obtain ⟨piece, rest, ht⟩ := List.exists_cons_of_ne_nil (splitBreaks_ne_nil t)
    simp [splitBreaks, joinPieces, ht]
  | pair s ih =>
    have hrest : ¬ (s.getLast? = some '\r' ∧ t.head? = some '\n') := by
      cases s with
      | nil => simp
      | cons c s => simpa using h
    rw [List.cons_append, List.cons_append, splitBreaks_pair, splitBreaks_pair, ih hrest,
      joinPieces_cons (splitBreaks_ne_nil s)]
  | lone c s hc hpair ih =>
    cases s with
    | nil =>
      rw [List.singleton_append, splitBreaks_lone hc (by simpa using h), splitBreaks_lone hc hpair,
        joinPieces_cons (splitBreaks_ne_nil []), splitBreaks]
      obtain ⟨piece, rest, ht⟩ := List.exists_cons_of_ne_nil (splitBreaks_ne_nil t)
      simp [joinPieces, ht]
    | cons d s =>
      rw [List.cons_append, splitBreaks_lone hc (by simpa using hpair), splitBreaks_lone hc hpair,
        ih (by simpa using h), joinPieces_cons (splitBreaks_ne_nil _)]
  | char c s hc ih =>
    have hrest : ¬ (s.getLast? = some '\r' ∧ t.head? = some '\n') := by
      cases s with
      | nil => simp
      | cons d s => simpa using h
    rw [List.cons_append, splitBreaks_char hc, splitBreaks_char hc, ih hrest,
      joinPieces_modifyHead (splitBreaks_ne_nil s) (splitBreaks_ne_nil t)]

/-- A CR that the text before ends with, and the LF that the text behind starts with, are one
break. -/
theorem splitBreaks_append_lineFeed (s t : List Char) :
    splitBreaks (s ++ '\r' :: '\n' :: t) = splitBreaks s ++ splitBreaks t := by
  rw [splitBreaks_append (by simp), splitBreaks_pair, joinPieces_nil_cons (splitBreaks_ne_nil s)]

theorem splitBreaks_append_carriageReturn (s : List Char) :
    splitBreaks (s ++ ['\r']) = splitBreaks s ++ [[]] := by
  rw [splitBreaks_append (by simp), splitBreaks_lone (by decide) (by simp), splitBreaks,
    joinPieces_nil_cons (splitBreaks_ne_nil s)]

/-! ## Runs of a segment -/

/-- What a piece of a segment adds to a line. -/
def StyledSegment.pieceRuns (s : StyledSegment) (piece : List Char) : List TextRun :=
  if piece.isEmpty && !s.characters.isEmpty then [] else [s.run piece]

namespace LineBuilder

variable (b : LineBuilder) (s : StyledSegment)

/-- What holds after the first piece of a segment and after each further one, which is on a line of
its own, holds after the segment. -/
theorem addSegment_induction {P : List (List Char) → LineBuilder → Prop}
    (first : ∀ piece, P [piece] (b.addPiece s piece))
    (next : ∀ done b' piece, done ≠ [] → P done b' →
      P (done ++ [piece]) ((b'.breakLine s).addPiece s piece)) :
    P (splitBreaks s.characters.toList) (b.addSegment s) := by
  have hrest : ∀ (rest done : List (List Char)) (b' : LineBuilder), done ≠ [] → P done b' →
      P (done ++ rest) (rest.foldl (fun b piece => (b.breakLine s).addPiece s piece) b') := by
    intro rest
    induction rest with
    | nil =>
      intro done b' _ hdone
      rwa [List.append_nil]
    | cons piece rest ih =>
      intro done b' hne hdone
      have hpiece := ih (done ++ [piece]) _ (by simp) (next done b' piece hne hdone)
      rwa [List.append_assoc, List.singleton_append] at hpiece
  obtain ⟨piece, rest, h⟩ := List.exists_cons_of_ne_nil (splitBreaks_ne_nil s.characters.toList)
  unfold addSegment
  rw [h]
  exact hrest rest [piece] _ (by simp) (first piece)

/-- The runs of all lines. -/
def runs : List TextRun :=
  b.lines.flatMap (·.runs)

theorem runs_breakLine : (b.breakLine s).runs = b.runs := by
  cases hcurrent : b.current with
  | none => simp [runs, lines, breakLine, hcurrent, TextLine.openedBy]
  | some line => simp [runs, lines, breakLine, hcurrent]

theorem runs_addPiece (piece : List Char) :
    (b.addPiece s piece).runs = b.runs ++ s.pieceRuns piece := by
  unfold addPiece StyledSegment.pieceRuns
  split
  · rw [List.append_nil]
  · cases hcurrent : b.current with
    | none => simp [runs, lines, hcurrent, TextLine.openedBy]
    | some line => simp [runs, lines, hcurrent]

theorem runs_addSegment :
    (b.addSegment s).runs
      = b.runs ++ (splitBreaks s.characters.toList).flatMap s.pieceRuns := by
  refine addSegment_induction b s (P := fun done b' => b'.runs = b.runs ++ done.flatMap s.pieceRuns)
    ?_ ?_
  · intro piece
    rw [runs_addPiece, List.flatMap_singleton]
  · intro done b' piece _ hdone
    rw [runs_addPiece, runs_breakLine, hdone, List.flatMap_append, List.flatMap_singleton,
      List.append_assoc]

end LineBuilder

theorem runs_splitLines (segments : List StyledSegment) :
    (splitLines segments).flatMap (·.runs)
      = segments.flatMap fun s => (splitBreaks s.characters.toList).flatMap s.pieceRuns := by
  have hrun : ∀ b : LineBuilder, (segments.foldl LineBuilder.addSegment b).runs
      = b.runs ++ segments.flatMap fun s =>
          (splitBreaks s.characters.toList).flatMap s.pieceRuns := by
    induction segments with
    | nil => simp
    | cons s rest ih =>
      intro b
      rw [List.foldl_cons, ih, LineBuilder.runs_addSegment, List.flatMap_cons, List.append_assoc]
  exact hrun {}

/-! ## Lines of a segment -/

/-- The text of all runs of a line. -/
def TextLine.text (line : TextLine) : List Char :=
  line.runs.flatMap (·.text.toList)

/-- Pieces without the last one if that is empty. -/
def dropEmptyEnd (pieces : List (List Char)) : List (List Char) :=
  if pieces.getLast? = some [] then pieces.dropLast else pieces

namespace LineBuilder

variable (b : LineBuilder) (s : StyledSegment)

/-- The texts of the lines that have ended, and what there is of the one that goes on. -/
def pieces : List (List Char) :=
  b.ended.map TextLine.text ++ [(b.current.map TextLine.text).getD []]

theorem pieces_breakLine : (b.breakLine s).pieces = b.pieces ++ [[]] := by
  cases hcurrent : b.current with
  | none => simp [pieces, breakLine, hcurrent, TextLine.openedBy, TextLine.text]
  | some line => simp [pieces, breakLine, hcurrent]

theorem pieces_addPiece (piece : List Char) :
    (b.addPiece s piece).pieces = joinPieces b.pieces [piece] := by
  rw [pieces, pieces, joinPieces_append_singleton]
  unfold addPiece
  split
  · next hpiece =>
    obtain rfl : piece = [] := by simp_all
    simp
  · cases hcurrent : b.current with
    | none => simp [TextLine.text, TextLine.openedBy, StyledSegment.run]
    | some line => simp [TextLine.text, StyledSegment.run]

theorem pieces_addSegment :
    (b.addSegment s).pieces = joinPieces b.pieces (splitBreaks s.characters.toList) := by
  refine addSegment_induction b s (P := fun done b' => b'.pieces = joinPieces b.pieces done) ?_ ?_
  · exact pieces_addPiece b s
  · intro done b' piece hne hdone
    rw [pieces_addPiece, pieces_breakLine, joinPieces_append_singleton, hdone,
      joinPieces_append b.pieces hne]
    rfl

/-- The line that goes on has a text. -/
def GoesOn : Prop :=
  ∀ line ∈ b.current, line.text ≠ []

variable {b s}

theorem GoesOn.addPiece (hb : b.GoesOn) (hs : s.characters ≠ "") (piece : List Char) :
    (b.addPiece s piece).GoesOn := by
  unfold LineBuilder.addPiece
  split
  · exact hb
  · next hpiece =>
    have hne : piece ≠ [] := by
      rintro rfl
      simp_all
    intro line hline
    obtain rfl := Option.some.inj hline
    simp [TextLine.text, StyledSegment.run, hne]

theorem goesOn_breakLine : (b.breakLine s).GoesOn := by
  simp [GoesOn, breakLine]

theorem GoesOn.addSegment (hb : b.GoesOn) (hs : s.characters ≠ "") : (b.addSegment s).GoesOn :=
  addSegment_induction b s (P := fun _ b' => b'.GoesOn) (hb.addPiece hs)
    fun _ _ piece _ _ => goesOn_breakLine.addPiece hs piece

theorem GoesOn.map_text_lines (hb : b.GoesOn) :
    b.lines.map TextLine.text = dropEmptyEnd b.pieces := by
  unfold dropEmptyEnd pieces lines
  cases hcurrent : b.current with
  | none => simp
  | some line =>
    have hne : line.text ≠ [] := hb line hcurrent
    simp [hne]

end LineBuilder

/-! ## All lines -/

/-- The pieces of segments that are split on their own, each going on where the last one stopped. -/
def segmentPieces (segments : List StyledSegment) : List (List Char) :=
  segments.foldl (fun pieces s => joinPieces pieces (splitBreaks s.characters.toList)) [[]]

theorem map_text_splitLines {segments : List StyledSegment}
    (h : ∀ s ∈ segments, s.characters ≠ "") :
    (splitLines segments).map TextLine.text = dropEmptyEnd (segmentPieces segments) := by
  have hrun : ∀ b : LineBuilder, b.GoesOn → (segments.foldl LineBuilder.addSegment b).GoesOn
      ∧ (segments.foldl LineBuilder.addSegment b).pieces
        = segments.foldl (fun pieces s => joinPieces pieces (splitBreaks s.characters.toList))
            b.pieces := by
    induction segments with
    | nil => exact fun b hb => ⟨hb, rfl⟩
    | cons s rest ih =>
      intro b hb
      obtain ⟨hs, hrest⟩ := List.forall_mem_cons.mp h
      rw [List.foldl_cons, List.foldl_cons, ← LineBuilder.pieces_addSegment]
      exact ih hrest _ (hb.addSegment hs)
  obtain ⟨hgoes, hpieces⟩ := hrun {} (by simp [LineBuilder.GoesOn])
  rw [splitLines, hgoes.map_text_lines, hpieces]
  rfl

/-! ## Segments that cut a break -/

/-- A CR at the end of a segment and an LF at the start of the next one. -/
def StyledSegment.CutsBreak (s next : StyledSegment) : Prop :=
  s.characters.toList.getLast? = some '\r' ∧ next.characters.toList.head? = some '\n'

/-- The characters of all segments. -/
def segmentText (segments : List StyledSegment) : List Char :=
  segments.flatMap (·.characters.toList)

theorem segmentPieces_concat (segments : List StyledSegment) (s : StyledSegment) :
    segmentPieces (segments ++ [s])
      = joinPieces (segmentPieces segments) (splitBreaks s.characters.toList) := by
  simp [segmentPieces]

theorem segmentText_concat (segments : List StyledSegment) (s : StyledSegment) :
    segmentText (segments ++ [s]) = segmentText segments ++ s.characters.toList := by
  simp [segmentText]

theorem getLast?_segmentText {segments : List StyledSegment}
    (h : ∀ s ∈ segments, s.characters ≠ "") :
    (segmentText segments).getLast? = segments.getLast?.bind (·.characters.toList.getLast?) := by
  cases segments using List.reverseRecOn with
  | nil => rfl
  | append_singleton init s =>
    have hs : s.characters.toList ≠ [] := by simpa using h s (by simp)
    rw [segmentText_concat, List.getLast?_append_of_ne_nil _ hs]
    simp

/-- No two neighbours cut a break: then also none that a further segment makes. -/
theorem isChain_concat_iff {segments : List StyledSegment} {s : StyledSegment}
    (h : ∀ s ∈ segments, s.characters ≠ "") :
    (segments ++ [s]).IsChain (fun a b => ¬ a.CutsBreak b)
      ↔ segments.IsChain (fun a b => ¬ a.CutsBreak b)
        ∧ ¬ ((segmentText segments).getLast? = some '\r'
          ∧ s.characters.toList.head? = some '\n') := by
  rw [List.isChain_append, getLast?_segmentText h]
  cases hlast : segments.getLast? with
  | none => simp
  | some a => simp [StyledSegment.CutsBreak]

theorem segmentPieces_ne_nil (segments : List StyledSegment) : segmentPieces segments ≠ [] := by
  cases segments using List.reverseRecOn with
  | nil => simp [segmentPieces]
  | append_singleton init s =>
    rw [segmentPieces_concat]
    exact joinPieces_ne_nil _ (splitBreaks_ne_nil _)

/-- Without a break that is cut, the segments make no difference. -/
theorem segmentPieces_eq_splitBreaks {segments : List StyledSegment}
    (h : ∀ s ∈ segments, s.characters ≠ "")
    (hchain : segments.IsChain fun a b => ¬ a.CutsBreak b) :
    segmentPieces segments = splitBreaks (segmentText segments) := by
  induction segments using List.reverseRecOn with
  | nil => rfl
  | append_singleton init s ih =>
    have hinit : ∀ s ∈ init, s.characters ≠ "" := fun s hs => h s (by simp [hs])
    obtain ⟨hchain, hcut⟩ := (isChain_concat_iff hinit).mp hchain
    rw [segmentPieces_concat, ih hinit hchain, segmentText_concat, splitBreaks_append hcut]

/-- A CR and an LF that come together in two texts. -/
theorem exists_pieces_of_cut {s t : List Char} (hs : s.getLast? = some '\r')
    (ht : t.head? = some '\n') :
    ∃ before behind, behind ≠ [] ∧ splitBreaks s = before ++ [[]] ∧ splitBreaks t = [] :: behind
      ∧ splitBreaks (s ++ t) = before ++ behind := by
  obtain ⟨u, rfl⟩ := List.getLast?_eq_some_iff.mp hs
  obtain ⟨v, rfl⟩ := List.head?_eq_some_iff.mp ht
  refine ⟨splitBreaks u, splitBreaks v, splitBreaks_ne_nil v, splitBreaks_append_carriageReturn u,
    splitBreaks_lineFeed v, ?_⟩
  rw [List.append_assoc, List.singleton_append, splitBreaks_append_lineFeed]

theorem getLast?_joinPieces_congr {pieces others further : List (List Char)} (hp : pieces ≠ [])
    (ho : others ≠ []) (hfurther : further ≠ []) (h : pieces.getLast? = others.getLast?) :
    (joinPieces pieces further).getLast? = (joinPieces others further).getLast? := by
  obtain ⟨init, last, rfl⟩ := (List.eq_nil_or_concat' pieces).resolve_left hp
  obtain ⟨init', last', rfl⟩ := (List.eq_nil_or_concat' others).resolve_left ho
  obtain ⟨first, rest, rfl⟩ := List.exists_cons_of_ne_nil hfurther
  obtain rfl : last = last' := by simpa using h
  rw [joinPieces_append_singleton, joinPieces_append_singleton,
    List.getLast?_append_of_ne_nil _ (by simp), List.getLast?_append_of_ne_nil _ (by simp)]

/-- How the pieces of segments differ from those of the whole text: the last one is the same, and
there are more of them if a break is cut. -/
theorem segmentPieces_splitBreaks {segments : List StyledSegment}
    (h : ∀ s ∈ segments, s.characters ≠ "") :
    (segmentPieces segments).getLast? = (splitBreaks (segmentText segments)).getLast?
      ∧ (splitBreaks (segmentText segments)).length ≤ (segmentPieces segments).length
      ∧ ((segmentPieces segments).length ≤ (splitBreaks (segmentText segments)).length →
        segments.IsChain fun a b => ¬ a.CutsBreak b) := by
  induction segments using List.reverseRecOn with
  | nil => simp [segmentPieces, segmentText, splitBreaks]
  | append_singleton init s ih =>
    have hinit : ∀ s ∈ init, s.characters ≠ "" := fun s hs => h s (by simp [hs])
    obtain ⟨hlast, hle, hchain⟩ := ih hinit
    have hpieces := segmentPieces_ne_nil init
    have htext := splitBreaks_ne_nil (segmentText init)
    have hs := splitBreaks_ne_nil s.characters.toList
    rw [segmentPieces_concat, segmentText_concat, isChain_concat_iff hinit]
    by_cases hcut : (segmentText init).getLast? = some '\r' ∧ s.characters.toList.head? = some '\n'
    · obtain ⟨before, behind, hbehind, hbefore, hs', hboth⟩ := exists_pieces_of_cut hcut.1 hcut.2
      rw [hboth, hs', joinPieces_nil_cons hpieces]
      rw [hbefore] at hle
      refine ⟨?_, ?_, ?_⟩
      · rw [List.getLast?_append_of_ne_nil _ hbehind, List.getLast?_append_of_ne_nil _ hbehind]
      · simp at hle ⊢
        omega
      · intro hge
        simp at hle hge
        omega
    · have hlength := length_joinPieces hpieces hs
      have hlength' := length_joinPieces htext hs
      rw [splitBreaks_append hcut]
      exact ⟨getLast?_joinPieces_congr hpieces htext hs hlast, by omega,
        fun hge => ⟨hchain (by omega), hcut⟩⟩

theorem dropEmptyEnd_inj {pieces others : List (List Char)} (hp : pieces ≠ []) (ho : others ≠ [])
    (hlast : pieces.getLast? = others.getLast?)
    (h : dropEmptyEnd pieces = dropEmptyEnd others) : pieces = others := by
  obtain ⟨init, last, rfl⟩ := (List.eq_nil_or_concat' pieces).resolve_left hp
  obtain ⟨init', last', rfl⟩ := (List.eq_nil_or_concat' others).resolve_left ho
  obtain rfl : last = last' := by simpa using hlast
  unfold dropEmptyEnd at h
  by_cases hempty : last = []
  · simp_all
  · simpa [hempty] using h

end SceneCompiler
