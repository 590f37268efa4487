import Mathlib
import SceneCompiler.Proofs.RichText.Lines
import SceneCompiler.Proofs.Text.Spans
/-!
# Splitting undoes joining

A text is its pieces with its line breaks between them. The pieces can be told from the text alone,
as no piece has a character of a break and no CR is parted from its LF.

The pieces are found in one go over the text, which notes the places, in bytes, where a piece starts
and where it stops (`breakSlices`).

* `joined_splitBreaks`, `Joined.eq_splitBreaks`: a text is joined from its pieces, and from nothing
  else.
* `forall₂_breakSlices`: the places that the loop notes are those of the pieces.
* `invertsJoining_splitBreaks`: splitting is the inverse of joining.
-/

namespace SceneCompiler

/-! ## Definitions -/

/-- The line breaks of a text; a CR with an LF right after it is one. -/
def lineBreaks : List Char → List (List Char)
  | [] => []
  | '\r' :: '\n' :: s => ['\r', '\n'] :: lineBreaks s
  | c :: s => if isLineBreak c then [c] :: lineBreaks s else lineBreaks s

/-- The pieces of a text with the breaks between them, in turn. -/
def interleave : List (List Char) → List (List Char) → List Char
  | [], _ => []
  | piece :: _, [] => piece
  | piece :: pieces, lineBreak :: breaks => piece ++ lineBreak ++ interleave pieces breaks

/-- A text is joined from pieces without characters of breaks, and from the breaks between them. A
CR that is a break of its own does not stand before an LF. -/
inductive Joined : List (List Char) → List (List Char) → List Char → Prop where
  | last {piece : List Char} (free : ∀ c ∈ piece, isLineBreak c = false) : Joined [piece] [] piece
  | next {piece lineBreak rest : List Char} {pieces breaks : List (List Char)}
      (free : ∀ c ∈ piece, isLineBreak c = false)
      (breaks_line : lineBreak ∈ [['\r', '\n'], ['\r'], ['\n'], ['\u2028'], ['\u2029']])
      (apart : ¬ (lineBreak = ['\r'] ∧ rest.head? = some '\n'))
      (joined : Joined pieces breaks rest) :
      Joined (piece :: pieces) (lineBreak :: breaks) (piece ++ lineBreak ++ rest)

/-- The bounds of the pieces in bytes, found in one go. The current piece starts at `start`, and the
next character stands at `place`. -/
def breakSlices (start place : Nat) : List Char → List (Nat × Nat)
  | [] => [(start, place)]
  | '\r' :: '\n' :: s => (start, place) :: breakSlices (place + 2) (place + 2) s
  | '\r' :: s => (start, place) :: breakSlices (place + 1) (place + 1) s
  | c :: s =>
    if c = '\n' ∨ c = '\u2028' ∨ c = '\u2029' then
      (start, place) :: breakSlices (place + c.utf8Size) (place + c.utf8Size) s
    else breakSlices start (place + c.utf8Size) s

/-- A piece is what a text has between two bounds, both of them between characters. -/
structure IsSlice (text : String) (bounds : Nat × Nat) (piece : List Char) : Prop where
  start : String.Pos.Raw.IsValid text ⟨bounds.1⟩
  stop : String.Pos.Raw.IsValid text ⟨bounds.2⟩
  between : ∃ before after, text.toList = before ++ piece ++ after
    ∧ utf8Length before = bounds.1 ∧ utf8Length (before ++ piece) = bounds.2

/-- Splitting a text is the inverse of joining, and cuts the text between characters only. -/
structure InvertsJoining (text : String) (pieces : List (List Char)) : Prop where
  free : ∀ piece ∈ pieces, ∀ c ∈ ['\r', '\n', '\u2028', '\u2029'], c ∉ piece
  count : pieces.length = (lineBreaks text.toList).length + 1
  joins : interleave pieces (lineBreaks text.toList) = text.toList
  undoes : ∀ parts breaks, Joined parts breaks text.toList →
    parts = pieces ∧ breaks = lineBreaks text.toList
  slices : List.Forall₂ (IsSlice text) (breakSlices 0 0 text.toList) pieces

/-! ## Joining -/

theorem lineBreaks_lone {c : Char} {s : List Char} (hc : isLineBreak c)
    (hpair : ¬ (c = '\r' ∧ s.head? = some '\n')) : lineBreaks (c :: s) = [c] :: lineBreaks s := by
  rw [lineBreaks, if_pos hc]
  rintro rest rfl rfl
  exact hpair ⟨rfl, rfl⟩

theorem lineBreaks_char {c : Char} (hc : isLineBreak c = false) (s : List Char) :
    lineBreaks (c :: s) = lineBreaks s := by
  rw [lineBreaks, if_neg (by simp [hc])]
  rintro rest rfl rfl
  exact absurd hc (by decide)

theorem singleton_mem_breaks {c : Char} (hc : isLineBreak c) :
    [c] ∈ [['\r', '\n'], ['\r'], ['\n'], ['\u2028'], ['\u2029']] := by
  simpa [isLineBreak, or_assoc] using hc

theorem Joined.cons {pieces breaks : List (List Char)} {s : List Char} {c : Char}
    (h : Joined pieces breaks s) (hc : isLineBreak c = false) :
    Joined (pieces.modifyHead (c :: ·)) breaks (c :: s) := by
  cases h with
  | last free => exact .last (by simpa [hc] using free)
  | next free breaks_line apart joined =>
    exact .next (by simpa [hc] using free) breaks_line apart joined

/-- A text is joined from its pieces. -/
theorem joined_splitBreaks (s : List Char) : Joined (splitBreaks s) (lineBreaks s) s := by
  induction s using lineBreak_induction with
  | nil => exact .last (by simp)
  | pair s ih =>
    rw [splitBreaks_pair, lineBreaks]
    exact .next (by simp) (by simp) (by simp) ih
  | lone c s hc hpair ih =>
    rw [splitBreaks_lone hc hpair, lineBreaks_lone hc hpair]
    exact .next (by simp) (singleton_mem_breaks hc) (by simpa using hpair) ih
  | char c s hc ih =>
    rw [splitBreaks_char hc, lineBreaks_char hc]
    exact ih.cons hc

theorem modifyHead_nil_append (pieces : List (List Char)) :
    pieces.modifyHead (([] : List Char) ++ ·) = pieces := by
  cases pieces <;> rfl

/-- Characters of no break belong to the first piece of the text behind them. -/
theorem splitBreaks_free_append {piece : List Char} (h : ∀ c ∈ piece, isLineBreak c = false)
    (s : List Char) : splitBreaks (piece ++ s) = (splitBreaks s).modifyHead (piece ++ ·)
      ∧ lineBreaks (piece ++ s) = lineBreaks s := by
  induction piece with
  | nil =>
    exact ⟨(modifyHead_nil_append _).symm, rfl⟩
  | cons c piece ih =>
    have hc := h c List.mem_cons_self
    obtain ⟨hpieces, hbreaks⟩ := ih fun d hd => h d (List.mem_cons_of_mem c hd)
    rw [List.cons_append, splitBreaks_char hc, lineBreaks_char hc, hpieces, hbreaks,
      List.modifyHead_modifyHead]
    exact ⟨rfl, rfl⟩

/-- A break starts a new piece. -/
theorem splitBreaks_break_append {lineBreak s : List Char}
    (h : lineBreak ∈ [['\r', '\n'], ['\r'], ['\n'], ['\u2028'], ['\u2029']])
    (hapart : ¬ (lineBreak = ['\r'] ∧ s.head? = some '\n')) :
    splitBreaks (lineBreak ++ s) = [] :: splitBreaks s
      ∧ lineBreaks (lineBreak ++ s) = lineBreak :: lineBreaks s := by
  rcases List.mem_cons.mp h with rfl | hlone
  · exact ⟨splitBreaks_pair s, rfl⟩
  · obtain ⟨c, rfl, hc⟩ : ∃ c, lineBreak = [c] ∧ isLineBreak c := by
      simp only [List.mem_cons, List.not_mem_nil, or_false] at hlone
      rcases hlone with rfl | rfl | rfl | rfl <;> exact ⟨_, rfl, by decide⟩
    have hpair : ¬ (c = '\r' ∧ s.head? = some '\n') := by simpa using hapart
    exact ⟨splitBreaks_lone hc hpair, lineBreaks_lone hc hpair⟩

/-- There is nothing else that a text is joined from. -/
theorem Joined.eq_splitBreaks {pieces breaks : List (List Char)} {s : List Char}
    (h : Joined pieces breaks s) : pieces = splitBreaks s ∧ breaks = lineBreaks s := by
  induction h with
  | @last piece free =>
    obtain ⟨hpieces, hbreaks⟩ := splitBreaks_free_append free []
    rw [List.append_nil] at hpieces hbreaks
    rw [hpieces, hbreaks]
    simp [splitBreaks, lineBreaks]
  | @next piece lineBreak rest pieces breaks free hbreak apart _ ih =>
    obtain ⟨hpieces, hbreaks⟩ := splitBreaks_free_append free (lineBreak ++ rest)
    obtain ⟨hrest, hbreaks'⟩ := splitBreaks_break_append hbreak apart
    rw [List.append_assoc, hpieces, hbreaks, hrest, hbreaks', ih.1, ih.2]
    simp

theorem Joined.interleave_eq {pieces breaks : List (List Char)} {s : List Char}
    (h : Joined pieces breaks s) :
    interleave pieces breaks = s ∧ pieces.length = breaks.length + 1 := by
  induction h with
  | last => exact ⟨rfl, rfl⟩
  | next _ _ _ _ ih => exact ⟨by rw [interleave, ih.1], by simp [ih.2]⟩

theorem Joined.free {pieces breaks : List (List Char)} {s : List Char}
    (h : Joined pieces breaks s) :
    ∀ piece ∈ pieces, ∀ c ∈ piece, isLineBreak c = false := by
  induction h with
  | last free => simpa using free
  | next free _ _ _ ih => exact List.forall_mem_cons.mpr ⟨free, ih⟩

/-! ## Places -/

theorem breakSlices_lone {c : Char} {s : List Char} (hc : isLineBreak c)
    (hpair : ¬ (c = '\r' ∧ s.head? = some '\n')) (start place : Nat) :
    breakSlices start place (c :: s)
      = (start, place) :: breakSlices (place + c.utf8Size) (place + c.utf8Size) s := by
  by_cases hcr : c = '\r'
  · subst hcr
    rw [breakSlices]
    · rfl
    · rintro rest rfl
      exact hpair ⟨rfl, rfl⟩
  · rw [breakSlices, if_pos (by simpa [isLineBreak, hcr, or_assoc] using hc)]
    · exact fun _ h _ => hcr h
    · exact hcr

theorem breakSlices_char {c : Char} (hc : isLineBreak c = false) (start place : Nat)
    (s : List Char) : breakSlices start place (c :: s) = breakSlices start (place + c.utf8Size) s := by
  have hother : c ≠ '\r' ∧ ¬ (c = '\n' ∨ c = '\u2028' ∨ c = '\u2029') := by
    simpa [isLineBreak, and_assoc] using hc
  rw [breakSlices, if_neg hother.2]
  · exact fun _ h _ => hother.1 h
  · exact hother.1

theorem isValid_utf8Length {text : String} {before after : List Char}
    (h : text.toList = before ++ after) : String.Pos.Raw.IsValid text ⟨utf8Length before⟩ := by
  refine String.Pos.Raw.isValid_iff_exists_append.mpr
    ⟨String.ofList before, String.ofList after, ?_, ?_⟩
  · rw [← String.ofList_append, ← h, String.ofList_toList]
  · rw [← utf8ByteSize_ofList]
    rfl

theorem isSlice_of_append {text : String} {before piece after : List Char}
    (h : text.toList = before ++ piece ++ after) :
    IsSlice text (utf8Length before, utf8Length (before ++ piece)) piece :=
  ⟨isValid_utf8Length (h.trans (List.append_assoc _ _ _)), isValid_utf8Length h, before, after, h,
    rfl, rfl⟩

/-- The loop notes the places of the pieces that are to come, of which the first has started
already. -/
theorem forall₂_breakSlices {text : String} {s before current : List Char}
    (htext : text.toList = before ++ current ++ s) :
    List.Forall₂ (IsSlice text)
      (breakSlices (utf8Length before) (utf8Length (before ++ current)) s)
      ((splitBreaks s).modifyHead (current ++ ·)) := by
  have hplace : ∀ (x : List Char) (c : Char), utf8Length x + c.utf8Size = utf8Length (x ++ [c]) :=
    fun x c => (utf8Length_append x [c]).symm
  induction s using lineBreak_induction generalizing before current with
  | nil =>
    simp only [splitBreaks, breakSlices, List.modifyHead_cons, List.append_nil]
    exact .cons (isSlice_of_append htext) .nil
  | pair s ih =>
    rw [splitBreaks_pair, breakSlices, List.modifyHead_cons, List.append_nil]
    refine .cons (isSlice_of_append htext) ?_
    have hpair : utf8Length (before ++ current) + 2
        = utf8Length (before ++ current ++ ['\r', '\n']) :=
      (utf8Length_append _ ['\r', '\n']).symm
    have hbehind : text.toList = before ++ current ++ ['\r', '\n'] ++ [] ++ s := by
      simpa using htext
    have hrest := ih hbehind
    rwa [modifyHead_nil_append, List.append_nil, ← hpair] at hrest
  | lone c s hc hpair ih =>
    rw [splitBreaks_lone hc hpair, breakSlices_lone hc hpair, List.modifyHead_cons,
      List.append_nil]
    refine .cons (isSlice_of_append htext) ?_
    have hbehind : text.toList = before ++ current ++ [c] ++ [] ++ s := by simpa using htext
    have hrest := ih hbehind
    rwa [modifyHead_nil_append, List.append_nil, ← hplace] at hrest
  | char c s hc ih =>
    rw [splitBreaks_char hc, breakSlices_char hc, List.modifyHead_modifyHead, hplace]
    have hbehind : text.toList = before ++ (current ++ [c]) ++ s := by simpa using htext
    have hrest := ih hbehind
    rw [← List.append_assoc] at hrest
    have happend : (current ++ ·) ∘ (c :: ·) = (current ++ [c] ++ ·) := by
      funext piece
      simp
    rwa [happend]

/-! ## Texts -/

/-- Splitting a text at its breaks is the inverse of joining. -/
theorem invertsJoining_splitBreaks (text : String) :
    InvertsJoining text (splitBreaks text.toList) := by
  have hjoined := joined_splitBreaks text.toList
  obtain ⟨hjoins, hcount⟩ := hjoined.interleave_eq
  refine ⟨fun piece hpiece c hc hmem => ?_, hcount, hjoins, fun _ _ h => h.eq_splitBreaks, ?_⟩
  · have hfree := hjoined.free piece hpiece c hmem
    have hbreak : isLineBreak c = true := by simpa [isLineBreak, or_assoc] using hc
    rw [hbreak] at hfree
    cases hfree
  · have hall : text.toList = [] ++ [] ++ text.toList := rfl
    have hslices := forall₂_breakSlices hall
    rwa [modifyHead_nil_append] at hslices

example : splitBreaks "a\r\n\r\u2028".toList = [['a'], [], [], []]
    ∧ breakSlices 0 0 "a\r\n\r\u2028".toList = [(0, 1), (3, 3), (4, 4), (7, 7)] := by
  decide +kernel

end SceneCompiler
