import Mathlib
import SceneCompiler.Asset.Svg
import SceneCompiler.Text.Letter
import SceneCompiler.Proofs.Token.Identifier
/-!
# Opening tags

How an opening tag may be written is stated here apart from the reader: white space, names, equals
signs and quoted values. The reader takes all white space between two attributes, but only spaces
and tabs around an equals sign and right after the name of the tag. So a tag that has a line end in
one of these places is not read, and all others are.

* `OpeningTag`, `OpeningTag.WellFormed`: tags by the grammar.
* `find?_append`, `find?_eq_some_iff`: where the reader finds a tag.
* `readAttributes?_text`, `readAttributes?_unreadable`: which attributes it reads.
* `readAs_openingTag_iff`: a tag is read as it is written just when it is readable.
-/

namespace SceneCompiler

/-! ## The grammar -/

/-- White space of markup. -/
def markupSpaces : List Char :=
  [' ', '\t', '\r', '\n']

/-- Letters and numbers of all scripts, and three signs. -/
def isMarkupNameChar (c : Char) : Bool :=
  isLetterOrNumber c || c == '-' || c == '_' || c == ':'

/-- An attribute with the white space in front of it. -/
structure WrittenAttribute where
  gap : List Char
  name : List Char
  beforeEquals : List Char := []
  afterEquals : List Char := []
  quote : Char := '"'
  value : List Char
deriving DecidableEq, Repr

namespace WrittenAttribute

/-- The text from the name to the closing quote. -/
def assignment (a : WrittenAttribute) : List Char :=
  a.name ++ (a.beforeEquals ++ '=' :: (a.afterEquals ++ a.quote :: (a.value ++ [a.quote])))

def text (a : WrittenAttribute) : List Char :=
  a.gap ++ a.assignment

structure WellFormed (a : WrittenAttribute) : Prop where
  gap_ne_nil : a.gap ≠ []
  gap : ∀ c ∈ a.gap, c ∈ markupSpaces
  name_ne_nil : a.name ≠ []
  name : ∀ c ∈ a.name, isMarkupNameChar c = true
  beforeEquals : ∀ c ∈ a.beforeEquals, c ∈ markupSpaces
  afterEquals : ∀ c ∈ a.afterEquals, c ∈ markupSpaces
  quote : a.quote ∈ ['"', '\'']
  value : a.quote ∉ a.value

/-- What the attribute says. -/
def meaning (a : WrittenAttribute) : SvgAttribute :=
  ⟨String.ofList a.name, String.ofList a.value⟩

/-- The name is of ASCII letters and digits, and no line ends around the equals sign. -/
structure Readable (a : WrittenAttribute) : Prop where
  name : ∀ c ∈ a.name, SvgTag.isNameChar c = true
  beforeEquals : ∀ c ∈ a.beforeEquals, isBlank c = true
  afterEquals : ∀ c ∈ a.afterEquals, isBlank c = true

end WrittenAttribute

/-- An opening tag. -/
structure OpeningTag where
  attributes : List WrittenAttribute
  /-- The white space after the last attribute. -/
  gap : List Char := []
  selfClosing : Bool := false
deriving DecidableEq, Repr

namespace OpeningTag

def ending (selfClosing : Bool) : List Char :=
  if selfClosing then ['/', '>'] else ['>']

/-- The text after the name of the tag. -/
def body (t : OpeningTag) : List Char :=
  t.attributes.flatMap WrittenAttribute.text ++ (t.gap ++ ending t.selfClosing)

def text (t : OpeningTag) : List Char :=
  "<svg".toList ++ t.body

structure WellFormed (t : OpeningTag) : Prop where
  attributes : ∀ a ∈ t.attributes, a.WellFormed
  gap : ∀ c ∈ t.gap, c ∈ markupSpaces

/-- What the tag says. -/
def meaning (t : OpeningTag) : SvgTag :=
  ⟨t.attributes.map WrittenAttribute.meaning, t.selfClosing⟩

/-- No line end follows the name of the tag, and its attributes are readable. -/
structure Readable (t : OpeningTag) : Prop where
  start : ∀ c ∈ t.body.head?, c ∉ ['\r', '\n']
  attributes : ∀ a ∈ t.attributes, a.Readable

end OpeningTag

/-! ## Characters -/

section Characters

variable {c : Char}

theorem isWhite_of_mem_markupSpaces (h : c ∈ markupSpaces) : isWhite c = true := by
  have hall : (markupSpaces.all isWhite) = true := by decide
  exact List.all_eq_true.mp hall c h

theorem isBlank_of_mem_markupSpaces (h : c ∈ markupSpaces) (hline : c ∉ ['\r', '\n']) :
    isBlank c = true := by
  simp only [markupSpaces, List.mem_cons, List.not_mem_nil, or_false] at h hline
  rcases h with rfl | rfl | rfl | rfl
  · rfl
  · rfl
  · exact absurd (Or.inl rfl) hline
  · exact absurd (Or.inr rfl) hline

theorem isMarkupNameChar_of_isNameChar (h : SvgTag.isNameChar c = true) :
    isMarkupNameChar c = true := by
  simp only [SvgTag.isNameChar, Bool.or_eq_true] at h
  simp only [isMarkupNameChar, Bool.or_eq_true]
  exact h.imp_left (Or.imp_left (Or.imp_left isLetterOrNumber_of_isAlphanum))

theorem not_isWhite_of_isMarkupNameChar (h : isMarkupNameChar c = true) : isWhite c = false := by
  simp only [isMarkupNameChar, Bool.or_eq_true, beq_iff_eq] at h
  rcases h with ((h | rfl) | rfl) | rfl
  · exact not_isWhite_of_isLetterOrNumber h
  all_goals decide

theorem not_isNameChar_of_isWhite (h : isWhite c = true) : SvgTag.isNameChar c = false := by
  rw [Bool.eq_false_iff]
  intro hname
  rw [not_isWhite_of_isMarkupNameChar (isMarkupNameChar_of_isNameChar hname)] at h
  cases h

end Characters

/-! ## Finding the tag -/

namespace SvgTag

variable {before body s : List Char}

/-- No tag starts in the text, whatever tag comes after it. -/
def Untagged (before : List Char) : Prop :=
  ∀ front rest, before = front ++ ("<svg".toList ++ rest) → endsName (rest ++ ['<']) = false

theorem endsName_cons (c : Char) (s : List Char) : endsName (c :: s) = true ↔
    c = '>' ∨ c = '/' ∧ s.head? = some '>' ∨ isBlank c = true := by
  by_cases hclose : c = '>'
  · simp [hclose, endsName]
  · by_cases hslash : c = '/' ∧ s.head? = some '>'
    · obtain ⟨rfl, hhead⟩ := hslash
      obtain ⟨rest, rfl⟩ := List.head?_eq_some_iff.mp hhead
      simp [endsName]
    · rw [endsName]
      · simp [hclose, hslash]
      · exact hclose
      · rintro rest rfl rfl
        exact hslash ⟨rfl, rfl⟩

/-- What comes after the next tag does not matter. -/
theorem endsName_append (rest : List Char) :
    endsName (rest ++ '<' :: s) = endsName (rest ++ ['<']) := by
  cases rest with
  | nil => rfl
  | cons c rest =>
    have hhead : (rest ++ '<' :: s).head? = (rest ++ ['<']).head? := by cases rest <;> rfl
    show endsName (c :: (rest ++ '<' :: s)) = endsName (c :: (rest ++ ['<']))
    rw [Bool.eq_iff_iff, endsName_cons, endsName_cons, hhead]

/-- The name of a tag cannot start in the name of another one. -/
theorem exists_of_name_prefix {c : Char} {rest : List Char}
    (h : c :: (before ++ '<' :: s) = "<svg".toList ++ rest) :
    ∃ inner, c :: before = "<svg".toList ++ inner ∧ rest = inner ++ '<' :: s := by
  rcases before with _ | ⟨d, _ | ⟨e, _ | ⟨f, inner⟩⟩⟩
  · simp at h
  · simp at h
  · simp at h
  · refine ⟨inner, ?_, ?_⟩
    · simp_all
    · simp_all

/-- The reader goes past a text without tags. -/
theorem find?_append (h : Untagged before) :
    find? (before ++ '<' :: s) = (find? ('<' :: s)).map fun p => (before ++ p.1, p.2) := by
  induction before with
  | nil => simp
  | cons c before ih =>
    have htail : Untagged before := fun front rest heq => h (c :: front) rest (by rw [heq]; rfl)
    have hgo : (find? (before ++ '<' :: s)).map (fun p => (c :: p.1, p.2))
        = (find? ('<' :: s)).map fun p => (c :: before ++ p.1, p.2) := by
      rw [ih htail, Option.map_map]
      rfl
    rw [List.cons_append, find?]
    split
    · next rest hrest =>
      -- Where the name stands, it goes on.
      obtain ⟨inner, hinner, rfl⟩ :=
        exists_of_name_prefix (stripStart?_eq_some_iff.mp hrest)
      have hnot : endsName (inner ++ '<' :: s) = false := by
        rw [endsName_append]
        exact h [] inner hinner
      rw [hnot]
      exact hgo
    · exact hgo

theorem find?_name (hends : endsName body = true) :
    find? ("<svg".toList ++ body) = some ([], body) := by
  show find? ('<' :: 's' :: 'v' :: 'g' :: body) = _
  rw [find?]
  simp [stripStart?, hends]

/-- What the reader finds: a tag with nothing like it before it. -/
theorem find?_eq_some_iff : find? s = some (before, body) ↔
    s = before ++ ("<svg".toList ++ body) ∧ endsName body = true ∧ Untagged before := by
  constructor
  · intro h
    induction s generalizing before with
    | nil => cases h
    | cons c s ih =>
      have hgo : (find? s).map (fun p => (c :: p.1, p.2)) = some (before, body) →
          (∀ rest, c :: s = "<svg".toList ++ rest → endsName rest = false) →
          c :: s = before ++ ("<svg".toList ++ body) ∧ endsName body = true
            ∧ Untagged before := by
        intro hmap hnot
        obtain ⟨⟨inner, body'⟩, hfind, heq⟩ := Option.map_eq_some_iff.mp hmap
        obtain ⟨hbefore, hbody⟩ := Prod.mk.inj heq
        dsimp only at hbefore hbody
        subst hbefore hbody
        obtain ⟨rfl, hends, huntagged⟩ := ih hfind
        refine ⟨rfl, hends, fun front rest hfront => ?_⟩
        cases front with
        | nil =>
          rw [← endsName_append (s := ['s', 'v', 'g'] ++ body')]
          apply hnot
          rw [← List.cons_append, hfront]
          simp
        | cons d front => exact huntagged front rest (List.cons.inj hfront).2
      rw [find?] at h
      split at h
      · next rest hrest =>
        have hstart := stripStart?_eq_some_iff.mp hrest
        split at h
        · next hends =>
          obtain ⟨rfl, rfl⟩ := Prod.mk.inj (Option.some.inj h)
          exact ⟨hstart, hends, fun front rest heq => by simp at heq⟩
        · next hends =>
          refine hgo h fun rest' hrest' => ?_
          rw [hstart] at hrest'
          rw [← List.append_cancel_left hrest']
          simpa using hends
      · next hnone =>
        refine hgo h fun rest hrest => ?_
        rw [stripStart?_eq_some_iff.mpr hrest] at hnone
        cases hnone
  · rintro ⟨rfl, hends, huntagged⟩
    show find? (before ++ '<' :: ('s' :: 'v' :: 'g' :: body)) = _
    rw [find?_append huntagged]
    show (find? ("<svg".toList ++ body)).map _ = _
    rw [find?_name hends]
    simp

/-! ## Reading attributes -/

variable {c : Char} {gap name rest : List Char} {fuel : Nat}

theorem takeAttribute?_name (hne : name ≠ []) (hname : ∀ c ∈ name, isNameChar c = true)
    (hnext : ∀ c ∈ s.head?, isNameChar c = false) :
    takeAttribute? (name ++ s) = (takeValue? s).map fun p =>
      (⟨String.ofList name, String.ofList p.1⟩, p.2) := by
  have hstop : s.takeWhile isNameChar = [] ∧ s.dropWhile isNameChar = s := by
    cases s with
    | nil => exact ⟨rfl, rfl⟩
    | cons c s => simp [hnext c rfl]
  have htake : (name ++ s).takeWhile isNameChar = name := by
    rw [List.takeWhile_append_of_pos hname, hstop.1, List.append_nil]
  have hdrop : (name ++ s).dropWhile isNameChar = s := by
    rw [List.dropWhile_append_of_pos hname, hstop.2]
  unfold takeAttribute?
  simp only [htake, hdrop, if_neg hne]
  cases takeValue? s <;> rfl

theorem takeAttribute?_eq_none (hc : isNameChar c = false) : takeAttribute? (c :: s) = none := by
  unfold takeAttribute?
  simp [hc]

/-- What comes after the blanks is no equals sign: there is no value. -/
theorem takeValue?_absent {blanks : List Char} (hblanks : ∀ c ∈ blanks, isBlank c = true)
    (hc : isBlank c = false) (hequals : c ≠ '=') :
    takeValue? (blanks ++ c :: s) = some ([], c :: s) := by
  have hdrop : (c :: s).dropWhile isBlank = c :: s := List.dropWhile_cons_of_neg (by simp [hc])
  rw [takeValue?, List.dropWhile_append_of_pos hblanks, hdrop]
  split
  · next heq => exact absurd (List.cons.inj heq).1 hequals
  · rfl

theorem takeValue?_equals {blanks : List Char} (hblanks : ∀ c ∈ blanks, isBlank c = true) :
    takeValue? (blanks ++ '=' :: s) = takeQuoted? (s.dropWhile isBlank) := by
  rw [takeValue?, List.dropWhile_append_of_pos hblanks]
  rfl

/-- All white space in front of an attribute is skipped. -/
theorem readAttributes?_gap (hgap : ∀ c ∈ gap, isWhite c = true) :
    readAttributes? fuel (gap ++ s) = readAttributes? fuel s := by
  cases fuel with
  | zero => rfl
  | succ fuel =>
    unfold readAttributes?
    rw [List.dropWhile_append_of_pos hgap]

/-- What is no end of the tag has to be an attribute. -/
theorem readAttributes?_succ (hwhite : isWhite c = false) (hslash : c ≠ '/') (hclose : c ≠ '>') :
    readAttributes? (fuel + 1) (c :: s) = (takeAttribute? (c :: s)).bind fun p =>
      (readAttributes? fuel p.2).map fun q =>
        ({ q.1 with attributes := p.1 :: q.1.attributes }, q.2) := by
  have hdrop : (c :: s).dropWhile isWhite = c :: s := List.dropWhile_cons_of_neg (by simp [hwhite])
  rw [readAttributes?, hdrop]
  split
  · next heq => exact absurd (List.cons.inj heq).1 hslash
  · next heq => exact absurd (List.cons.inj heq).1 hclose
  · cases takeAttribute? (c :: s) with
    | none => rfl
    | some p =>
      show (readAttributes? fuel p.2).bind _ = (readAttributes? fuel p.2).map _
      cases readAttributes? fuel p.2 <;> rfl

/-- The reader gives up at a character that starts no name. -/
theorem readAttributes?_eq_none (hwhite : isWhite c = false) (hslash : c ≠ '/') (hclose : c ≠ '>')
    (hname : isNameChar c = false) : readAttributes? fuel (c :: s) = none := by
  cases fuel with
  | zero => rfl
  | succ fuel =>
    rw [readAttributes?_succ hwhite hslash hclose, takeAttribute?_eq_none hname]
    rfl

/-- The end of the tag. -/
theorem readAttributes?_ending (hgap : ∀ c ∈ gap, isWhite c = true) (selfClosing : Bool) :
    readAttributes? (fuel + 1) (gap ++ (OpeningTag.ending selfClosing ++ rest))
      = some (⟨[], selfClosing⟩, rest) := by
  rw [readAttributes?_gap hgap]
  cases selfClosing <;> rfl

end SvgTag

namespace WrittenAttribute

open SvgTag

variable {a : WrittenAttribute} {rest : List Char} {fuel : Nat}

/-- The first character of a well-formed attribute, behind the gap. -/
theorem WellFormed.exists_name_cons (h : a.WellFormed) : ∃ c name, a.name = c :: name
    ∧ isWhite c = false ∧ c ≠ '/' ∧ c ≠ '>' := by
  obtain ⟨c, name, hname⟩ := List.exists_cons_of_ne_nil h.name_ne_nil
  have hc : isMarkupNameChar c = true := h.name c (by simp [hname])
  refine ⟨c, name, hname, not_isWhite_of_isMarkupNameChar hc, ?_, ?_⟩
  · rintro rfl
    exact absurd hc (by decide)
  · rintro rfl
    exact absurd hc (by decide)

/-- Behind the gap the reader takes one attribute. -/
theorem WellFormed.readAttributes?_succ (h : a.WellFormed) :
    SvgTag.readAttributes? (fuel + 1) (a.text ++ rest) =
      (takeAttribute? (a.assignment ++ rest)).bind fun p =>
        (SvgTag.readAttributes? fuel p.2).map fun q =>
          ({ q.1 with attributes := p.1 :: q.1.attributes }, q.2) := by
  obtain ⟨c, name, hname, hwhite, hslash, hclose⟩ := h.exists_name_cons
  have hgap : ∀ c ∈ a.gap, isWhite c = true := fun c hc => isWhite_of_mem_markupSpaces (h.gap c hc)
  have hcons : a.assignment ++ rest = c :: (name ++ (a.beforeEquals ++
      '=' :: (a.afterEquals ++ a.quote :: (a.value ++ [a.quote]))) ++ rest) := by
    rw [assignment, hname]
    rfl
  rw [text, List.append_assoc, readAttributes?_gap hgap, hcons,
    SvgTag.readAttributes?_succ hwhite hslash hclose]

theorem assignment_append (a : WrittenAttribute) (rest : List Char) :
    a.assignment ++ rest = a.name ++ (a.beforeEquals ++
      '=' :: (a.afterEquals ++ a.quote :: (a.value ++ a.quote :: rest))) := by
  simp [assignment]

theorem takeQuoted?_value (h : a.WellFormed) :
    takeQuoted? (a.quote :: (a.value ++ a.quote :: rest)) = some (a.value, rest) := by
  have hquote : a.quote = '"' ∨ a.quote = '\'' := List.mem_pair.mp h.quote
  have hvalue : ∀ c ∈ a.value, decide (c ≠ a.quote) = true := fun c hc =>
    decide_eq_true fun heq => h.value (heq ▸ hc)
  rw [takeQuoted?, if_pos hquote, List.dropWhile_append_of_pos hvalue,
    List.takeWhile_append_of_pos hvalue]
  simp

/-- The equals sign and the value, with the white space around the sign. -/
theorem takeAttribute?_of_name (h : a.WellFormed) (hname : ∀ c ∈ a.name, isNameChar c = true) :
    takeAttribute? (a.assignment ++ rest) =
      (takeValue? (a.beforeEquals ++
        '=' :: (a.afterEquals ++ a.quote :: (a.value ++ a.quote :: rest)))).map fun p =>
          (⟨String.ofList a.name, String.ofList p.1⟩, p.2) := by
  rw [assignment_append]
  refine takeAttribute?_name h.name_ne_nil hname ?_
  intro c hc
  cases hbefore : a.beforeEquals with
  | nil =>
    rw [hbefore] at hc
    obtain rfl : '=' = c := Option.some.inj hc
    decide
  | cons d spaces =>
    rw [hbefore] at hc
    obtain rfl : d = c := Option.some.inj hc
    have hd : d ∈ markupSpaces := h.beforeEquals d (by simp [hbefore])
    exact not_isNameChar_of_isWhite (isWhite_of_mem_markupSpaces hd)

/-- A readable attribute is read. -/
theorem takeAttribute?_assignment (h : a.WellFormed) (hread : a.Readable) :
    takeAttribute? (a.assignment ++ rest) = some (a.meaning, rest) := by
  have hquote : isBlank a.quote = false := by
    rcases List.mem_pair.mp h.quote with hq | hq <;> rw [hq] <;> decide
  have hdrop : (a.afterEquals ++ a.quote :: (a.value ++ a.quote :: rest)).dropWhile isBlank
      = a.quote :: (a.value ++ a.quote :: rest) := by
    rw [List.dropWhile_append_of_pos hread.afterEquals]
    exact List.dropWhile_cons_of_neg (by simp [hquote])
  rw [takeAttribute?_of_name h hread.name, takeValue?_equals hread.beforeEquals, hdrop,
    takeQuoted?_value h]
  rfl

/-- Where an attribute is not readable, the reader gives up at once or right after the part of it
that it takes. -/
theorem readAttributes?_rest_eq_none (h : a.WellFormed) (hread : ¬ a.Readable)
    {p : SvgAttribute × List Char} (htake : takeAttribute? (a.assignment ++ rest) = some p) :
    SvgTag.readAttributes? fuel p.2 = none := by
  by_cases hname : ∀ c ∈ a.name, isNameChar c = true
  · rw [takeAttribute?_of_name h hname] at htake
    obtain ⟨q, hvalue, rfl⟩ := Option.map_eq_some_iff.mp htake
    by_cases hbefore : ∀ c ∈ a.beforeEquals, isBlank c = true
    · -- A line end after the equals sign is no quote.
      have hafter : ¬ ∀ c ∈ a.afterEquals, isBlank c = true := fun hafter =>
        hread ⟨hname, hbefore, hafter⟩
      obtain ⟨blanks, c, spaces, hsplit, hblanks, hc⟩ := exists_first_not hafter
      have hspace : c ∈ markupSpaces := h.afterEquals c (by simp [hsplit])
      have hquote : ¬ (c = '"' ∨ c = '\'') := by
        rintro (rfl | rfl) <;> exact absurd hspace (by decide)
      rw [takeValue?_equals hbefore, hsplit, List.append_assoc,
        List.dropWhile_append_of_pos hblanks, List.cons_append,
        List.dropWhile_cons_of_neg (by simp [hc]), takeQuoted?, if_neg hquote] at hvalue
      cases hvalue
    · -- A line end in front of it makes an attribute without a value, and the sign starts none.
      obtain ⟨blanks, c, spaces, hsplit, hblanks, hc⟩ := exists_first_not hbefore
      have hspaces : ∀ d ∈ c :: spaces, isWhite d = true := fun d hd =>
        isWhite_of_mem_markupSpaces (h.beforeEquals d (by
          rw [hsplit]
          exact List.mem_append_right _ hd))
      have hequals : c ≠ '=' := by
        rintro rfl
        exact absurd (hspaces '=' List.mem_cons_self) (by decide)
      rw [hsplit, List.append_assoc, List.cons_append, takeValue?_absent hblanks hc hequals]
        at hvalue
      obtain rfl := Option.some.inj hvalue
      show SvgTag.readAttributes? fuel ((c :: spaces) ++ _) = none
      rw [readAttributes?_gap hspaces]
      exact readAttributes?_eq_none (by decide) (by decide) (by decide) (by decide)
  · -- The name ends at the first letter that is not ASCII, and no other name starts there.
    obtain ⟨start, c, others, hsplit, hstart, hc⟩ := exists_first_not hname
    have hletter : isMarkupNameChar c = true := h.name c (by simp [hsplit])
    have hwhite : isWhite c = false := not_isWhite_of_isMarkupNameChar hletter
    have hblank : isBlank c = false := by
      rw [Bool.eq_false_iff]
      intro hblank
      rw [isWhite_of_isBlank hblank] at hwhite
      cases hwhite
    have hsigns : c ≠ '/' ∧ c ≠ '>' ∧ c ≠ '=' := by
      refine ⟨?_, ?_, ?_⟩
      all_goals
        rintro rfl
        exact absurd hletter (by decide)
    rw [assignment_append, hsplit, List.append_assoc, List.cons_append] at htake
    by_cases hne : start = []
    · rw [hne, List.nil_append, takeAttribute?_eq_none hc] at htake
      cases htake
    · rw [takeAttribute?_name hne hstart (by simpa using hc)] at htake
      have hnone : ∀ d ∈ ([] : List Char), isBlank d = true := fun d hd =>
        absurd hd List.not_mem_nil
      rw [← List.nil_append (c :: _), takeValue?_absent hnone hblank hsigns.2.2] at htake
      obtain rfl := Option.some.inj htake
      exact readAttributes?_eq_none hwhite hsigns.1 hsigns.2.1 hc

end WrittenAttribute

/-! ## Reading a tag -/

namespace OpeningTag

open SvgTag

variable {t : OpeningTag} {attributes : List WrittenAttribute} {gap rest : List Char} {fuel : Nat}

/-- All attributes are read, in their order. -/
theorem readAttributes?_text (h : ∀ a ∈ attributes, a.WellFormed ∧ a.Readable)
    (hgap : ∀ c ∈ gap, c ∈ markupSpaces) (selfClosing : Bool) (hfuel : attributes.length < fuel) :
    SvgTag.readAttributes? fuel (attributes.flatMap WrittenAttribute.text ++
        (gap ++ (ending selfClosing ++ rest)))
      = some (⟨attributes.map WrittenAttribute.meaning, selfClosing⟩, rest) := by
  induction attributes generalizing fuel with
  | nil =>
    obtain ⟨fuel, rfl⟩ := Nat.exists_eq_add_of_lt hfuel
    exact readAttributes?_ending (fun c hc => isWhite_of_mem_markupSpaces (hgap c hc)) selfClosing
  | cons a attributes ih =>
    obtain ⟨fuel, rfl⟩ := Nat.exists_eq_succ_of_ne_zero (Nat.ne_zero_of_lt hfuel)
    obtain ⟨⟨hwell, hread⟩, hothers⟩ := List.forall_mem_cons.mp h
    rw [List.flatMap_cons, List.append_assoc, hwell.readAttributes?_succ,
      WrittenAttribute.takeAttribute?_assignment hwell hread, Option.bind_some,
      ih hothers (Nat.lt_of_succ_lt_succ hfuel)]
    rfl

/-- One attribute that is not readable spoils the tag. -/
theorem readAttributes?_unreadable (h : ∀ a ∈ attributes, a.WellFormed)
    (hread : ¬ ∀ a ∈ attributes, a.Readable) :
    SvgTag.readAttributes? fuel (attributes.flatMap WrittenAttribute.text ++ rest) = none := by
  induction attributes generalizing fuel with
  | nil => exact absurd (fun a ha => absurd ha List.not_mem_nil) hread
  | cons a attributes ih =>
    cases fuel with
    | zero => rfl
    | succ fuel =>
      obtain ⟨hwell, hothers⟩ := List.forall_mem_cons.mp h
      rw [List.flatMap_cons, List.append_assoc, hwell.readAttributes?_succ, Option.bind_eq_none_iff]
      intro p htake
      rw [Option.map_eq_none_iff]
      by_cases ha : a.Readable
      · rw [WrittenAttribute.takeAttribute?_assignment hwell ha] at htake
        obtain rfl := Option.some.inj htake
        exact ih hothers fun hall => hread (List.forall_mem_cons.mpr ⟨ha, hall⟩)
      · exact WrittenAttribute.readAttributes?_rest_eq_none hwell ha htake

theorem length_le_body (h : ∀ a ∈ attributes, a.WellFormed) :
    attributes.length ≤ (attributes.flatMap WrittenAttribute.text).length := by
  induction attributes with
  | nil => exact Nat.le_refl 0
  | cons a attributes ih =>
    obtain ⟨hwell, hothers⟩ := List.forall_mem_cons.mp h
    have htext : 0 < a.text.length := by
      rw [WrittenAttribute.text, List.length_append]
      have := List.length_pos_of_ne_nil hwell.gap_ne_nil
      omega
    have := ih hothers
    rw [List.flatMap_cons, List.length_append, List.length_cons]
    omega

/-- The rest of a tag is read just when its attributes are readable. -/
theorem read?_body (h : t.WellFormed) (hread : ∀ a ∈ t.attributes, a.Readable) :
    read? (t.body ++ rest) = some (t.meaning, rest) := by
  have hfuel : t.attributes.length < (t.body ++ rest).length + 1 := by
    have := length_le_body h.attributes
    rw [body, List.length_append, List.length_append]
    omega
  rw [read?, body, List.append_assoc, List.append_assoc]
  rw [body, List.append_assoc, List.append_assoc] at hfuel
  exact readAttributes?_text (fun a ha => ⟨h.attributes a ha, hread a ha⟩) h.gap _ hfuel

theorem read?_body_eq_none (h : t.WellFormed) (hread : ¬ ∀ a ∈ t.attributes, a.Readable) :
    read? (t.body ++ rest) = none := by
  rw [read?, body, List.append_assoc]
  exact readAttributes?_unreadable h.attributes hread

/-- After the name comes white space, or the end of the tag. -/
theorem body_cases (h : t.WellFormed) :
    t.body = ending t.selfClosing ∨ ∃ c s, t.body = c :: s ∧ c ∈ markupSpaces := by
  unfold body
  cases hattributes : t.attributes with
  | nil =>
    cases hgap : t.gap with
    | nil => exact Or.inl rfl
    | cons c spaces => exact Or.inr ⟨c, _, rfl, h.gap c (by simp [hgap])⟩
  | cons a attributes =>
    have hwell : a.WellFormed := h.attributes a (by simp [hattributes])
    obtain ⟨c, spaces, hgap⟩ := List.exists_cons_of_ne_nil hwell.gap_ne_nil
    have htext : (a :: attributes).flatMap WrittenAttribute.text ++ (t.gap ++ ending t.selfClosing)
        = c :: (spaces ++ a.assignment ++ attributes.flatMap WrittenAttribute.text
          ++ (t.gap ++ ending t.selfClosing)) := by
      rw [List.flatMap_cons, WrittenAttribute.text, hgap]
      rfl
    exact Or.inr ⟨c, _, htext, hwell.gap c (by simp [hgap])⟩

/-- The reader finds the tag just when no line ends after the name. -/
theorem endsName_body (h : t.WellFormed) :
    endsName (t.body ++ rest) = true ↔ ∀ c ∈ t.body.head?, c ∉ ['\r', '\n'] := by
  rcases body_cases h with hending | ⟨c, s, hcons, hspace⟩
  · rw [hending]
    cases t.selfClosing <;> simp [ending, endsName]
  · rw [hcons, List.cons_append, endsName_cons]
    constructor
    · rintro (rfl | ⟨rfl, -⟩ | hblank)
      · exact absurd hspace (by decide)
      · exact absurd hspace (by decide)
      · rintro _ ⟨⟩ hline
        rw [List.mem_pair] at hline
        rcases hline with rfl | rfl <;> exact absurd hblank (by decide)
    · exact fun hline => Or.inr (Or.inr (isBlank_of_mem_markupSpaces hspace (hline c rfl)))

end OpeningTag

/-! ## Byte ranges -/

namespace SvgRoot

open SvgTag

variable {t : OpeningTag} {before after : List Char}

/-- Markup is read as a tag in a range of its bytes. -/
def ReadAs (markup : String) (first last : Nat) (tag : SvgTag) : Prop :=
  ∃ root, read? markup = some root ∧ root.start = first ∧ root.stop markup = last ∧ root.tag = tag

theorem read?_ofList (s : List Char) : read? (String.ofList s) = (find? s).bind fun found =>
    (SvgTag.read? found.2).map fun p => ⟨found.1, p.1, p.2⟩ := by
  unfold read?
  rw [String.toList_ofList]
  cases find? s with
  | none => rfl
  | some found =>
    show (SvgTag.read? found.2).bind _ = (SvgTag.read? found.2).map _
    cases SvgTag.read? found.2 <;> rfl

theorem untagged_of_not_infix (h : ¬ "<svg".toList <:+: before) : Untagged before :=
  fun front rest heq => absurd ⟨front, rest, by rw [heq, List.append_assoc]⟩ h

/-- A readable tag is read, with what is before and after it. -/
theorem read?_openingTag (ht : t.WellFormed) (hread : t.Readable) (hbefore : Untagged before)
    (after : List Char) : read? (String.ofList (before ++ (t.text ++ after)))
      = some ⟨before, t.meaning, after⟩ := by
  have hends : endsName (t.body ++ after) = true :=
    (OpeningTag.endsName_body ht).mpr hread.start
  have hfind : find? (before ++ (t.text ++ after)) = some (before, t.body ++ after) :=
    find?_eq_some_iff.mpr ⟨by rw [OpeningTag.text, List.append_assoc], hends, hbefore⟩
  rw [read?_ofList, hfind, Option.bind_some, OpeningTag.read?_body ht hread.attributes]
  rfl

/-- The range of bytes of a tag between two texts. -/
theorem stop_of_append (tag : SvgTag) (text : List Char) :
    stop ⟨before, tag, after⟩ (String.ofList (before ++ (text ++ after)))
      = utf8Length (before ++ text) := by
  rw [stop, utf8ByteSize_ofList, ← List.append_assoc, utf8Length_append, Nat.add_sub_cancel]

/-- The reader passes by a tag whose name has a line end after it: what it finds starts later. -/
theorem start_lt_of_find? (hbefore : Untagged before) {body : List Char}
    (hends : ¬ endsName body = true) {found : List Char × List Char}
    (hfind : find? (before ++ ("<svg".toList ++ body)) = some found) :
    utf8Length before < utf8Length found.1 := by
  have hgo : find? (before ++ '<' :: ('s' :: 'v' :: 'g' :: body)) = some found := hfind
  rw [find?_append hbefore] at hgo
  obtain ⟨inner, hinner, rfl⟩ := Option.map_eq_some_iff.mp hgo
  have hne : inner.1 ≠ [] := by
    intro hnil
    obtain ⟨hsplit, hends', -⟩ := find?_eq_some_iff.mp
      (show find? ("<svg".toList ++ body) = some (inner.1, inner.2) from hinner)
    rw [hnil, List.nil_append] at hsplit
    exact hends (List.append_cancel_left hsplit ▸ hends')
  rw [utf8Length_append]
  exact Nat.lt_add_of_pos_right (utf8Length_pos hne)

/-- The first tag of its name is read as it is written just when it is readable: when no line ends
right after the name of the tag or around an equals sign, and the names are ASCII. -/
theorem readAs_openingTag_iff (ht : t.WellFormed) (hfirst : ¬ "<svg".toList <:+: before)
    (after : List Char) :
    ReadAs (String.ofList (before ++ (t.text ++ after))) (utf8Length before)
      (utf8Length (before ++ t.text)) t.meaning ↔ t.Readable := by
  have hbefore := untagged_of_not_infix hfirst
  constructor
  · rintro ⟨root, hroot, hstart, -, -⟩
    rw [read?_ofList, OpeningTag.text, List.append_assoc] at hroot
    obtain ⟨found, hfind, hbody⟩ := Option.bind_eq_some_iff.mp hroot
    obtain ⟨p, hread, rfl⟩ := Option.map_eq_some_iff.mp hbody
    -- The tag that is found is this one, since it starts in the same place.
    have hends : endsName (t.body ++ after) = true := by
      by_contra hends
      exact absurd hstart (start_lt_of_find? hbefore hends hfind).ne'
    rw [find?_eq_some_iff.mpr ⟨rfl, hends, hbefore⟩] at hfind
    obtain rfl := Option.some.inj hfind
    refine ⟨(OpeningTag.endsName_body ht).mp hends, ?_⟩
    by_contra hunreadable
    rw [OpeningTag.read?_body_eq_none ht hunreadable] at hread
    cases hread
  · intro hread
    exact ⟨_, read?_openingTag ht hread hbefore after, rfl, stop_of_append _ _, rfl⟩

/-! ### Tags over several lines -/

/-- Line ends between the attributes of a tag, and tabs and spaces around an equals sign. -/
def spreadTag : OpeningTag where
  attributes :=
    [{ gap := [' ', '\n', '\t'], name := "width".toList, value := "24".toList },
      { gap := ['\r', '\n'], name := "xlink:href".toList, beforeEquals := ['\t'],
        afterEquals := [' ', ' '], quote := '\'', value := "a\">\n".toList }]
  gap := ['\n']
  selfClosing := true

theorem wellFormed_spreadTag : spreadTag.WellFormed := by
  have hnames : (spreadTag.attributes.all fun a => a.name.all isNameChar) = true := by
    decide +kernel
  refine ⟨fun a ha => ?_, by simp [spreadTag, markupSpaces]⟩
  have hname : ∀ c ∈ a.name, isMarkupNameChar c = true := fun c hc =>
    isMarkupNameChar_of_isNameChar
      (List.all_eq_true.mp (List.all_eq_true.mp hnames a ha) c hc)
  rcases List.mem_pair.mp ha with rfl | rfl
  · exact ⟨by decide, by simp [markupSpaces], by decide +kernel, hname, by simp, by simp,
      by decide, by decide +kernel⟩
  · exact ⟨by decide, by simp [markupSpaces], by decide +kernel, hname, by simp [markupSpaces],
      by simp [markupSpaces], by decide, by decide +kernel⟩

theorem readable_spreadTag : spreadTag.Readable := by
  have hnames : (spreadTag.attributes.all fun a => a.name.all isNameChar) = true := by
    decide +kernel
  have hblanks : (spreadTag.attributes.all fun a =>
      a.beforeEquals.all isBlank && a.afterEquals.all isBlank) = true := by decide
  have hstart : spreadTag.body.head? = some ' ' := rfl
  refine ⟨by simp [hstart], fun a ha => ?_⟩
  have hblank := List.all_eq_true.mp hblanks a ha
  rw [Bool.and_eq_true] at hblank
  exact ⟨List.all_eq_true.mp (List.all_eq_true.mp hnames a ha), List.all_eq_true.mp hblank.1,
    List.all_eq_true.mp hblank.2⟩

/-- Such a tag is read, also behind a word that only starts like it. -/
theorem readAs_spreadTag :
    spreadTag.WellFormed ∧ ¬ "<svg".toList <:+: "é<sv".toList ∧
      ReadAs "é<sv<svg \n\twidth=\"24\"\r\nxlink:href\t=  'a\">\n'\n/><svg>" 5 47
        ⟨[⟨"width", "24"⟩, ⟨"xlink:href", "a\">\n"⟩], true⟩ := by
  have hfirst : ¬ "<svg".toList <:+: "é<sv".toList := by decide +kernel
  have hread := (readAs_openingTag_iff wellFormed_spreadTag hfirst "<svg>".toList).mpr
    readable_spreadTag
  have hmarkup : String.ofList ("é<sv".toList ++ (spreadTag.text ++ "<svg>".toList))
      = "é<sv<svg \n\twidth=\"24\"\r\nxlink:href\t=  'a\">\n'\n/><svg>" := by decide +kernel
  have hstart : utf8Length "é<sv".toList = 5 := by decide +kernel
  have hstop : utf8Length ("é<sv".toList ++ spreadTag.text) = 47 := by decide +kernel
  have hmeaning : spreadTag.meaning
      = ⟨[⟨"width", "24"⟩, ⟨"xlink:href", "a\">\n"⟩], true⟩ := by decide +kernel
  rw [hmarkup, hstart, hstop, hmeaning] at hread
  exact ⟨wellFormed_spreadTag, hfirst, hread⟩

/-- A tag with one attribute, given the white space in front of it and around its equals sign. -/
def widthTag (gap beforeEquals afterEquals : List Char) : OpeningTag where
  attributes :=
    [{ gap, name := "width".toList, beforeEquals, afterEquals, value := "1".toList }]
  selfClosing := true

theorem wellFormed_widthTag {gap beforeEquals afterEquals : List Char} (hne : gap ≠ [])
    (hgap : gap ⊆ markupSpaces) (hbefore : beforeEquals ⊆ markupSpaces)
    (hafter : afterEquals ⊆ markupSpaces) :
    (widthTag gap beforeEquals afterEquals).WellFormed := by
  have hnames : ("width".toList.all isNameChar) = true := by decide +kernel
  have hname : "width".toList ≠ [] := by decide +kernel
  have hvalue : '"' ∉ "1".toList := by decide +kernel
  refine ⟨fun a ha => ?_, by simp [widthTag]⟩
  obtain rfl := List.mem_singleton.mp ha
  exact
    { gap_ne_nil := hne
      gap := fun c hc => hgap hc
      name_ne_nil := hname
      name := fun c hc => isMarkupNameChar_of_isNameChar (List.all_eq_true.mp hnames c hc)
      beforeEquals := fun c hc => hbefore hc
      afterEquals := fun c hc => hafter hc
      quote := List.mem_cons_self
      value := hvalue }

/-- Well-formed tags with a line end after the name of the tag, before an equals sign and after one:
none is read, and behind the first the reader finds another tag. -/
theorem read?_line_ends :
    ((widthTag ['\n'] [] []).WellFormed ∧
      String.ofList (widthTag ['\n'] [] []).text = "<svg\nwidth=\"1\"/>" ∧
      (read? "<svg\nwidth=\"1\"/>").isNone = true ∧
      (read? "<svg\nwidth=\"1\"/><svg >").map start = some 16) ∧
    ((widthTag [' '] ['\n'] []).WellFormed ∧
      String.ofList (widthTag [' '] ['\n'] []).text = "<svg width\n=\"1\"/>" ∧
      (read? "<svg width\n=\"1\"/>").isNone = true) ∧
    ((widthTag [' '] [] ['\r', '\n']).WellFormed ∧
      String.ofList (widthTag [' '] [] ['\r', '\n']).text = "<svg width=\r\n\"1\"/>" ∧
      (read? "<svg width=\r\n\"1\"/>").isNone = true) := by
  refine ⟨⟨?_, by decide +kernel, by decide +kernel, by decide +kernel⟩,
    ⟨?_, by decide +kernel, by decide +kernel⟩, ⟨?_, by decide +kernel, by decide +kernel⟩⟩
  · exact wellFormed_widthTag (by simp) (by simp [markupSpaces]) (by simp) (by simp)
  · exact wellFormed_widthTag (by simp) (by simp [markupSpaces]) (by simp [markupSpaces]) (by simp)
  · exact wellFormed_widthTag (by simp) (by simp [markupSpaces]) (by simp) (by simp [markupSpaces])

end SvgRoot

end SceneCompiler
