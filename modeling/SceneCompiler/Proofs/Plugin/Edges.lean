import Mathlib
import SceneCompiler.Proofs.Plugin.Scanning
/-!
# What the mask knows of the elements before

Whether a slash is a division and whether a word is the name of a member, the mask decides by the
last characters that it has emitted. Here is what these decisions mean in terms of the last element
that is still visible in the emitted text.

* `Element.DivisionFollows`, `Element.RegexFollows`: elements after which a slash is taken for a
  division, or for the start of a regular expression.
* `Trail.element`: what is known of the emitted text, after one more element.
-/

namespace SceneCompiler.Script

open Mask

variable {A : Alphabet} {c : Char} {emitted : List Char}

theorem Alphabet.identPart_of_identStart (h : A.identStart c = true) : A.identPart c = true := by
  simp only [Alphabet.identStart, Bool.or_eq_true, beq_iff_eq] at h
  rcases h with (h | rfl) | rfl
  · simp [Alphabet.identPart, A.part_of_start c h]
  · simp [Alphabet.identPart]
  · simp [Alphabet.identPart, A.part_ascii '_' (by decide)]

theorem Alphabet.identPart_of_isDigit (h : c.isDigit = true) : A.identPart c = true := by
  have halnum : c.isAlphanum = true := by simp [Char.isAlphanum, h]
  have hascii : c.toNat < 128 := by
    rw [isAlphanum_iff] at halnum
    omega
  simp [Alphabet.identPart, A.part_ascii c hascii, halnum]

theorem not_isWhite_of_identPart (h : A.identPart c = true) : isWhite c = false := by
  simp only [Alphabet.identPart, Bool.or_eq_true, beq_iff_eq] at h
  rcases h with ((h | rfl) | rfl) | rfl
  · exact A.part_not_white c h
  all_goals decide

theorem ne_point_of_identPart (h : A.identPart c = true) : c ≠ '.' := by
  rintro rfl
  rw [Alphabet.identPart, A.part_ascii _ (by decide)] at h
  exact absurd h (by decide)

/-- Characters of identifiers are no white space. -/
theorem not_isWhite_of_isScriptIdentChar (h : isScriptIdentChar c = true) : isWhite c = false := by
  simp only [isScriptIdentChar, Bool.or_eq_true, beq_iff_eq] at h
  rcases h with (h | rfl) | rfl
  · exact not_isWhite_of_isLetterOrNumber h
  all_goals decide

namespace Element

/-- Elements that end in a point after which a word is the name of a member for the mask. Numbers
may do so too. -/
def EndsInPoint : Element → Prop
  | punctuator mark => mark = "." ∨ mark = "?."
  | number literal => literal.getLast? = some '.'
  | _ => False

theorem blank_edges (c : Char) :
    isScriptIdentChar (blank c) = false ∧ isWhite (blank c) = true := by
  unfold blank
  split <;> decide

theorem whiteSpace_edges (h : c ∈ whiteSpace ++ lineTerminators) :
    isScriptIdentChar c = false ∧ (isWhite c = true ∨ c = '\ufeff') := by
  have hall : (whiteSpace ++ lineTerminators).all
      (fun c => !isScriptIdentChar c && (isWhite c || c == '\ufeff')) = true := by
    decide
  simpa using List.all_eq_true.mp hall c h

/-- White space and comments that the mask skips. There is one kind of white space that it does not
know; inside a comment it becomes a blank as well. -/
def isSkipped (comment : Bool) (e : Element) : Bool :=
  e.isTrivia && (comment || e != .white '\ufeff')

theorem skipped_shown {e : Element} {comment : Bool} (hvalid : e.Valid A)
    (h : e.isSkipped comment = true) :
    ∀ c ∈ e.shown comment, isScriptIdentChar c = false ∧ isWhite c = true := by
  have hmap : ∀ s : List Char, ∀ c ∈ s.map blank,
      isScriptIdentChar c = false ∧ isWhite c = true := by
    intro s c hc
    obtain ⟨d, -, rfl⟩ := List.mem_map.mp hc
    exact blank_edges d
  have hsingle : ∀ c ∈ whiteSpace ++ lineTerminators, c ≠ '\ufeff' →
      ∀ d ∈ [c], isScriptIdentChar d = false ∧ isWhite d = true := by
    intro c hc hne d hd
    obtain rfl := List.mem_singleton.mp hd
    obtain ⟨hident, hwhite⟩ := whiteSpace_edges hc
    exact ⟨hident, hwhite.resolve_right hne⟩
  obtain ⟨htrivia, hknown⟩ := Bool.and_eq_true_iff.mp h
  cases comment with
  | true => exact hmap e.text
  | false =>
    cases e with
    | white c => exact hsingle c (List.mem_append_left _ hvalid) (by simpa using hknown)
    | terminator c =>
      refine hsingle c (List.mem_append_right _ hvalid) ?_
      rintro rfl
      have hmem : '\ufeff' ∈ lineTerminators := hvalid
      exact absurd hmem (by decide)
    | lineComment body => exact hmap _
    | blockComment body => exact hmap _
    | identifier | number | string | regex | punctuator | template => cases htrivia

/-- What is known of the last character `c` that is emitted for a token. -/
structure Edge (A : Alphabet) (e : Element) (c : Char) : Prop where
  not_white : isWhite c = false
  point : c = '.' → e.EndsInPoint ∨ e = .punctuator "..."
  apart : isScriptIdentChar c = true → ∀ next, e.Ends A next → ∀ d ∈ next, A.identStart d = false

theorem identifierPart_edge {p : IdentifierPart} (hpart : A.identPart p.value = true)
    (hwritten : p.Written) : ∃ s c, p.text = s ++ [c] ∧ isWhite c = false ∧ c ≠ '.' := by
  have hdigits : ∀ digits : List Char, digits ≠ [] → (∀ c ∈ digits, (Json.hexValue? c).isSome) →
      ∃ s c, digits = s ++ [c] ∧ isWhite c = false ∧ c ≠ '.' := by
    intro digits hne hhex
    have halnum := isAlphanum_of_hexValue? (hhex _ (List.getLast_mem hne))
    refine ⟨_, _, (List.dropLast_append_getLast hne).symm, not_isWhite_of_isAlphanum halnum, ?_⟩
    intro hpoint
    rw [hpoint] at halnum
    exact absurd halnum (by decide)
  cases p with
  | char c => exact ⟨[], c, rfl, not_isWhite_of_identPart hpart, ne_point_of_identPart hpart⟩
  | escape digits =>
    have hne : digits ≠ [] := by
      rintro rfl
      exact absurd hwritten.1 (by decide)
    obtain ⟨s, c, rfl, hc⟩ := hdigits digits hne hwritten.2
    exact ⟨'\\' :: 'u' :: s, c, rfl, hc⟩
  | braced digits => exact ⟨'\\' :: 'u' :: '\x7b' :: digits, '\x7d', rfl, by decide, by decide⟩

theorem identifier_edge {parts : List IdentifierPart} (h : IsIdentifier A parts) :
    ∃ s c, parts.flatMap IdentifierPart.text = s ++ [c] ∧ Edge A (identifier parts) c := by
  rcases List.eq_nil_or_concat parts with rfl | ⟨init, p, rfl⟩
  · obtain ⟨p, hp, -⟩ := h.start
    cases hp
  · have hmem : p ∈ init.concat p := by simp
    obtain ⟨s, c, htext, hwhite, hpoint⟩ := identifierPart_edge (h.part p hmem) (h.written p hmem)
    refine ⟨init.flatMap IdentifierPart.text ++ s, c, by simp [htext], hwhite, ?_, ?_⟩
    · exact fun heq => absurd heq hpoint
    · intro _ next hends d hd
      have hpart : A.identPart d = false := (hends d hd).1
      exact Bool.eq_false_iff.mpr fun hstart =>
        Bool.eq_false_iff.mp hpart (Alphabet.identPart_of_identStart hstart)

theorem number_edge {literal : List Char} (h : NumericLiteral literal) :
    ∃ s c, literal = s ++ [c] ∧ Edge A (number literal) c := by
  obtain ⟨d, t, hcons, -⟩ := h.exists_cons
  have hne : literal ≠ [] := by simp [hcons]
  have hlast := List.dropLast_append_getLast hne
  refine ⟨_, _, hlast.symm, ?_, ?_, ?_⟩
  · rcases h.isNumeral _ (List.getLast_mem hne) with halnum | hother
    · exact not_isWhite_of_isAlphanum halnum
    · simp only [List.mem_cons, List.not_mem_nil, or_false] at hother
      rcases hother with h | h | h | h <;> rw [h] <;> decide
  · intro hpoint
    exact .inl ((List.getLast?_eq_some_getLast hne).trans (by rw [hpoint]))
  · intro _ next hends d hd
    exact (hends d hd).1

/-- The last characters of punctuators. -/
theorem punctuator_last {mark : String} (h : mark ∈ punctuators) :
    ∃ s c, mark.toList = s ++ [c] ∧ isWhite c = false ∧ isScriptIdentChar c = false ∧
      (c = '.' → mark ∈ [".", "?.", "..."]) ∧ (c ∈ [')', ']'] ↔ mark ∈ [")", "]"]) := by
  have hall : ∀ mark ∈ punctuators, (mark.toList.getLast?.any fun c => decide (isWhite c = false ∧
      isScriptIdentChar c = false ∧ (c = '.' → mark ∈ [".", "?.", "..."]) ∧
        (c ∈ [')', ']'] ↔ mark ∈ [")", "]"]))) = true := by
    decide
  obtain ⟨c, hlast, hc⟩ := (Option.any_eq_true _ _).mp (hall mark h)
  obtain ⟨s, hs⟩ := List.getLast?_eq_some_iff.mp hlast
  exact ⟨s, c, hs, of_decide_eq_true hc⟩

/-- A token that ends in a quote, a slash or a brace. -/
theorem edge_of_closed {e : Element} (hwhite : isWhite c = false)
    (hident : isScriptIdentChar c = false) (hpoint : c ≠ '.') : Edge A e c where
  not_white := hwhite
  point heq := absurd heq hpoint
  apart hc := by
    rw [hident] at hc
    cases hc

theorem punctuator_edge {mark : String} (h : mark ∈ punctuators) :
    ∃ s c, mark.toList = s ++ [c] ∧ Edge A (punctuator mark) c := by
  obtain ⟨s, c, hs, hwhite, hident, hpoint, -⟩ := punctuator_last h
  refine ⟨s, c, hs, hwhite, ?_, ?_⟩
  · intro heq
    have hmem := hpoint heq
    simp only [List.mem_cons, List.not_mem_nil, or_false] at hmem
    rcases hmem with rfl | rfl | rfl
    · exact .inl (.inl rfl)
    · exact .inl (.inr rfl)
    · exact .inr rfl
  · intro hc
    rw [hident] at hc
    cases hc

theorem regex_edge {body flags : List Char} (hflags : ∀ c ∈ flags, A.identPart c = true) :
    ∃ s c, (regex body flags).masked = s ++ [c] ∧ Edge A (regex body flags) c := by
  rcases List.eq_nil_or_concat flags with rfl | ⟨init, c, rfl⟩
  · exact ⟨'/' :: body.map blank, '/', by simp [masked],
      edge_of_closed (by decide) (by decide) (by decide)⟩
  · have hc := hflags c (by simp)
    refine ⟨'/' :: body.map blank ++ '/' :: init, c, by simp [masked], ?_, ?_, ?_⟩
    · exact not_isWhite_of_identPart hc
    · exact fun heq => absurd heq (ne_point_of_identPart hc)
    · intro _ next hends d hd
      have hpart : A.identPart d = false := hends d hd
      exact Bool.eq_false_iff.mpr fun hstart =>
        Bool.eq_false_iff.mp hpart (Alphabet.identPart_of_identStart hstart)

/-- Every token ends in such a character. -/
theorem token_masked {e : Element} (hvalid : e.Valid A) (h : e.isTrivia = false) :
    ∃ s c, e.masked = s ++ [c] ∧ Edge A e c := by
  cases e with
  | white | terminator | lineComment | blockComment => cases h
  | identifier parts => exact identifier_edge hvalid
  | number literal => exact number_edge hvalid
  | punctuator mark => exact punctuator_edge hvalid
  | regex body flags => exact regex_edge hvalid.2.2.2
  | string quote body =>
    refine ⟨quote :: body.map blank, quote, rfl, ?_⟩
    rcases List.mem_pair.mp hvalid.1 with rfl | rfl
    all_goals exact edge_of_closed (by decide) (by decide) (by decide)
  | template resumes body opens =>
    cases opens with
    | true =>
      exact ⟨templateStart resumes :: body.map blank ++ ['$'], '\x7b',
        by simp [masked, templateEnd],
        edge_of_closed (by decide) (by decide) (by decide)⟩
    | false =>
      exact ⟨templateStart resumes :: body.map blank, '\x60', rfl,
        edge_of_closed (by decide) (by decide) (by decide)⟩

theorem isTrivia_of_isBlankLine {e : Element} (h : e.isBlankLine = true) : e.isTrivia = true := by
  cases e with
  | white | terminator | lineComment => rfl
  | blockComment | identifier | number | string | regex | punctuator | template => cases h

/-- The first character of an element. -/
theorem text_start {e : Element} (hvalid : e.Valid A) : ∃ c s, e.text = c :: s ∧
    (isScriptIdentChar c = false ∨ A.identPart c = true ∨ c = '\\') := by
  cases e with
  | white c => exact ⟨c, [], rfl, .inl (whiteSpace_edges (List.mem_append_left _ hvalid)).1⟩
  | terminator c => exact ⟨c, [], rfl, .inl (whiteSpace_edges (List.mem_append_right _ hvalid)).1⟩
  | lineComment body => exact ⟨'/', _, rfl, .inl (by decide)⟩
  | blockComment body => exact ⟨'/', _, rfl, .inl (by decide)⟩
  | regex body flags => exact ⟨'/', _, rfl, .inl (by decide)⟩
  | identifier parts =>
    obtain ⟨p, hp, hstart⟩ := IsIdentifier.start hvalid
    obtain ⟨rest, rfl⟩ := List.head?_eq_some_iff.mp hp
    cases p with
    | char c => exact ⟨c, _, rfl, .inr (.inl (Alphabet.identPart_of_identStart hstart))⟩
    | escape digits => exact ⟨'\\', _, rfl, .inr (.inr rfl)⟩
    | braced digits => exact ⟨'\\', _, rfl, .inr (.inr rfl)⟩
  | number literal =>
    obtain ⟨c, s, rfl, hc⟩ := NumericLiteral.exists_cons hvalid
    refine ⟨c, s, rfl, ?_⟩
    rcases hc with hdigit | rfl
    · exact .inr (.inl (Alphabet.identPart_of_isDigit hdigit))
    · exact .inl (by decide)
  | string quote body =>
    refine ⟨quote, _, rfl, .inl ?_⟩
    rcases List.mem_pair.mp hvalid.1 with rfl | rfl <;> decide
  | punctuator mark =>
    have hall : (punctuators.all fun mark =>
        mark.toList.head?.any fun c => !isScriptIdentChar c) = true := by
      decide
    have hmark := List.all_eq_true.mp hall mark hvalid
    rw [Option.any_eq_true] at hmark
    obtain ⟨c, hhead, hc⟩ := hmark
    obtain ⟨s, hs⟩ := List.head?_eq_some_iff.mp hhead
    exact ⟨c, s, hs, .inl (by simpa using hc)⟩
  | template resumes body opens =>
    refine ⟨templateStart resumes, _, rfl, .inl ?_⟩
    cases resumes <;> decide

/-- As many characters are emitted for an element as it has. -/
theorem length_shown (e : Element) (comment : Bool) : (e.shown comment).length = e.text.length := by
  cases comment with
  | true => exact List.length_map _
  | false => cases e <;> simp [shown, masked, text]

theorem shown_ne_nil {e : Element} (hvalid : e.Valid A) (comment : Bool) :
    e.shown comment ≠ [] := by
  obtain ⟨c, s, htext, -⟩ := text_start hvalid
  have hlength := length_shown e comment
  rw [htext] at hlength
  exact List.ne_nil_of_length_eq_add_one hlength

end Element

/-! ## Slashes -/

theorem regexAllowed_white (h : isWhite c = true) :
    regexAllowed (c :: emitted) = regexAllowed emitted := by
  simp [regexAllowed, h]

theorem regexAllowed_bracket (h : c = ')' ∨ c = ']') : regexAllowed (c :: emitted) = false := by
  rcases h with rfl | rfl <;> rfl

theorem regexAllowed_other (hwhite : isWhite c = false) (hident : isScriptIdentChar c = false)
    (hbracket : ¬ (c = ')' ∨ c = ']')) : regexAllowed (c :: emitted) = true := by
  simp [regexAllowed, hwhite, hident, hbracket]

/-- After a character of an identifier, the word that it ends decides. -/
theorem regexAllowed_ident (hwhite : isWhite c = false) (hident : isScriptIdentChar c = true) :
    regexAllowed (c :: emitted) = regexPreceders.contains
      (String.ofList ((c :: emitted).takeWhile isScriptIdentChar).reverse) := by
  have hbracket : ¬ (c = ')' ∨ c = ']') := by
    rintro (rfl | rfl) <;> exact absurd hident (by decide)
  simp only [regexAllowed, List.dropWhile_cons, hwhite, Bool.false_eq_true, if_false, hident,
    if_true, if_neg hbracket]

theorem regexAllowed_word {s : List Char} (hne : s ≠ [])
    (hs : ∀ c ∈ s, isScriptIdentChar c = true ∧ isWhite c = false)
    (hemitted : ∀ c ∈ emitted.head?, isScriptIdentChar c = false) :
    regexAllowed (s.reverse ++ emitted) = regexPreceders.contains (String.ofList s) := by
  obtain ⟨init, c, rfl⟩ := (List.eq_nil_or_concat s).resolve_left hne
  obtain ⟨hident, hwhite⟩ := hs c (by simp)
  have hword : ((init.concat c).reverse ++ emitted).takeWhile isScriptIdentChar =
      (init.concat c).reverse := by
    rw [List.takeWhile_append_of_pos fun d hd => (hs d (List.mem_reverse.mp hd)).1]
    cases emitted with
    | nil => simp
    | cons d emitted => simp [hemitted d rfl]
  have hcons : (init.concat c).reverse ++ emitted = c :: (init.reverse ++ emitted) := by simp
  rw [hcons] at hword ⊢
  rw [regexAllowed_ident hwhite hident, hword, List.reverse_reverse]

/-- No keyword has a digit. -/
theorem regexAllowed_digit {d : Char} (hwhite : isWhite c = false)
    (hident : isScriptIdentChar c = true) (hdigit : d.isDigit = true)
    (hd : d ∈ (c :: emitted).takeWhile isScriptIdentChar) :
    regexAllowed (c :: emitted) = false := by
  rw [regexAllowed_ident hwhite hident, Bool.eq_false_iff, ne_eq, List.contains_iff_mem]
  intro hmem
  have hall : (regexPreceders.all fun word => word.toList.all fun d => !d.isDigit) = true := by
    decide
  have hword := List.all_eq_true.mp (List.all_eq_true.mp hall _ hmem) d
    (by rw [String.toList_ofList]; exact List.mem_reverse.mpr hd)
  rw [hdigit] at hword
  cases hword

theorem isScriptIdentChar_of_isAlphanum (h : c.isAlphanum = true) : isScriptIdentChar c = true := by
  simp [isScriptIdentChar, isLetterOrNumber_of_isAlphanum h]

/-- A number ends in a point, or in a word with a digit. -/
theorem NumericLiteral.exists_digit {literal : List Char} (h : NumericLiteral literal)
    (hpoint : literal.getLast? ≠ some '.') : ∃ s d t, literal = s ++ d :: t ∧ d.isDigit = true ∧
      ∀ c ∈ t, isScriptIdentChar c = true := by
  have hbig : ∀ big ∈ [[], ['n']], ∀ c ∈ big, isScriptIdentChar c = true := by
    have hn : isScriptIdentChar 'n' = true := by decide
    simp [hn]
  have hlast : ∀ {s t : List Char}, Digits Char.isDigit t → ∃ u d v, s ++ t = u ++ d :: v ∧
      d.isDigit = true ∧ ∀ c ∈ v, isScriptIdentChar c = true := by
    intro s t ht
    obtain ⟨u, d, rfl, hd⟩ := ht.exists_concat
    exact ⟨s ++ u, d, [], by simp, hd, by simp⟩
  have hexponent : ∀ {s t : List Char}, Exponent t → ∃ u d v, s ++ t = u ++ d :: v ∧
      d.isDigit = true ∧ ∀ c ∈ v, isScriptIdentChar c = true := by
    rintro s _ @⟨mark, sign, digits, -, -, hdigits⟩
    rw [← List.append_assoc]
    exact hlast hdigits
  cases h with
  | @integer whole big hwhole hb =>
    obtain ⟨u, d, rfl, hd⟩ := hwhole.exists_concat
    exact ⟨u, d, big, by simp, hd, hbig big hb⟩
  | scaled hwhole hexp => exact hexponent hexp
  | @decimal whole _ _ hwhole hfraction hexp =>
    rcases hexp with rfl | hexp
    · rcases hfraction with rfl | hfraction
      · simp at hpoint
      · simpa using hlast (s := whole ++ ['.']) hfraction
    · exact hexponent hexp
  | fraction hfraction hexp =>
    rcases hexp with rfl | hexp
    · simpa using hlast (s := ['.']) hfraction
    · exact hexponent hexp
  | @radix mark digits big hmark hdigits hb =>
    have hmark : isScriptIdentChar mark = true := by
      have hall : ['x', 'X', 'o', 'O', 'b', 'B'].all isScriptIdentChar = true := by decide
      exact List.all_eq_true.mp hall mark hmark
    have hdigits := hdigits.forall_mem
      (fun c hc => isScriptIdentChar_of_isAlphanum (isAlphanum_of_isRadixDigit hc))
      (by decide)
    refine ⟨[], '0', mark :: digits ++ big, rfl, rfl, ?_⟩
    exact List.forall_mem_append.mpr
      ⟨List.forall_mem_cons.mpr ⟨hmark, hdigits⟩, hbig big hb⟩

namespace Element

/-- A word of letters and digits that the mask knows. -/
def IsKnown (word : List Char) : Prop :=
  word ≠ [] ∧ word.all isScriptIdentChar = true

/-- After these, the mask takes a slash for a division: after closing brackets but not braces, after
numbers, and after names and flags but for some keywords. -/
def DivisionFollows : Element → Prop
  | punctuator mark => mark = ")" ∨ mark = "]"
  | number literal => literal.getLast? ≠ some '.'
  | identifier parts => IsKnown (parts.flatMap IdentifierPart.text) ∧
      String.ofList (parts.flatMap IdentifierPart.text) ∉ regexPreceders
  | regex _ flags => IsKnown flags ∧ String.ofList flags ∉ regexPreceders
  | _ => False

/-- After these, it takes a slash for the start of a regular expression. -/
def RegexFollows : Element → Prop
  | white _ | string _ _ | template _ _ _ => True
  | punctuator mark => mark ≠ ")" ∧ mark ≠ "]"
  | number literal => literal.getLast? = some '.'
  | identifier parts => IsKnown (parts.flatMap IdentifierPart.text) ∧
      String.ofList (parts.flatMap IdentifierPart.text) ∈ regexPreceders
  | regex _ flags => flags = []
  | _ => False

theorem regexAllowed_known {word : List Char} (h : IsKnown word)
    (hemitted : ∀ c ∈ emitted.head?, isScriptIdentChar c = false) :
    regexAllowed (word.reverse ++ emitted) = regexPreceders.contains (String.ofList word) :=
  regexAllowed_word h.1 (fun c hc => by
    have hident := List.all_eq_true.mp h.2 c hc
    exact ⟨hident, not_isWhite_of_isScriptIdentChar hident⟩) hemitted

/-- The first character of an identifier without escapes. -/
theorem head_known {parts : List IdentifierPart} (hvalid : IsIdentifier A parts)
    (h : IsKnown (parts.flatMap IdentifierPart.text)) :
    ∃ c ∈ (parts.flatMap IdentifierPart.text).head?, A.identStart c = true := by
  obtain ⟨p, hp, hstart⟩ := hvalid.start
  obtain ⟨rest, rfl⟩ := List.head?_eq_some_iff.mp hp
  cases p with
  | char c => exact ⟨c, rfl, hstart⟩
  | escape digits | braced digits =>
    have hback := List.all_eq_true.mp h.2 '\\' (by simp [IdentifierPart.text])
    exact absurd hback (by decide)

theorem number_slash {literal : List Char} (h : NumericLiteral literal) :
    ((number literal).DivisionFollows → regexAllowed (literal.reverse ++ emitted) = false) ∧
      ((number literal).RegexFollows → regexAllowed (literal.reverse ++ emitted) = true) := by
  constructor
  · intro hpoint
    obtain ⟨s, d, t, rfl, hdigit, hident⟩ := h.exists_digit hpoint
    have hword : ∀ c ∈ d :: t, isScriptIdentChar c = true := List.forall_mem_cons.mpr
      ⟨isScriptIdentChar_of_isAlphanum (by simp [Char.isAlphanum, hdigit]), hident⟩
    have hsplit : (s ++ d :: t).reverse ++ emitted =
        (d :: t).reverse ++ (s.reverse ++ emitted) := by
      simp
    have hd : d ∈ ((d :: t).reverse ++ (s.reverse ++ emitted)).takeWhile isScriptIdentChar := by
      rw [List.takeWhile_append_of_pos fun c hc => hword c (List.mem_reverse.mp hc)]
      exact List.mem_append_left _ (List.mem_reverse.mpr List.mem_cons_self)
    rw [hsplit]
    obtain ⟨init, c, hconcat⟩ := (List.eq_nil_or_concat (d :: t)).resolve_left (by simp)
    have hc : isScriptIdentChar c = true := hword c (by simp [hconcat])
    rw [hconcat, List.concat_eq_append, List.reverse_concat, List.cons_append] at hd ⊢
    exact regexAllowed_digit (not_isWhite_of_isScriptIdentChar hc) hc hdigit hd
  · intro hpoint
    obtain ⟨s, rfl⟩ := List.getLast?_eq_some_iff.mp hpoint
    rw [List.reverse_concat, List.cons_append]
    exact regexAllowed_other (by decide) (by decide) (by decide)

/-- What the mask makes of a slash after a token. -/
theorem token_slash {e : Element} {rest : List Char} (hvalid : e.Valid A)
    (htoken : e.isTrivia = false)
    (hapart : ∀ c ∈ emitted.head?, isScriptIdentChar c = true →
      ∀ d ∈ (e.text ++ rest).head?, A.identStart d = false) :
    (e.DivisionFollows → regexAllowed (e.masked.reverse ++ emitted) = false) ∧
      (e.RegexFollows → regexAllowed (e.masked.reverse ++ emitted) = true) := by
  cases e with
  | white | terminator | lineComment | blockComment => cases htoken
  | number literal => exact number_slash hvalid
  | identifier parts =>
    have hword : IsKnown (parts.flatMap IdentifierPart.text) →
        regexAllowed ((parts.flatMap IdentifierPart.text).reverse ++ emitted) =
          regexPreceders.contains (String.ofList (parts.flatMap IdentifierPart.text)) := by
      intro hknown
      refine regexAllowed_known hknown ?_
      intro c hc
      by_contra hident
      obtain ⟨d, hd, hstart⟩ := head_known hvalid hknown
      have hhead : d ∈ ((identifier parts).text ++ rest).head? := by
        show d ∈ (parts.flatMap IdentifierPart.text ++ rest).head?
        rw [List.head?_append_of_ne_nil _ hknown.1]
        exact hd
      rw [hapart c hc (by simpa using hident) d hhead] at hstart
      cases hstart
    constructor
    · rintro ⟨hknown, hkeyword⟩
      exact (hword hknown).trans (by simpa using hkeyword)
    · rintro ⟨hknown, hkeyword⟩
      exact (hword hknown).trans (by simpa using hkeyword)
  | punctuator mark =>
    obtain ⟨s, c, hs, hwhite, hident, -, hbracket⟩ := punctuator_last hvalid
    have hmasked : (punctuator mark).masked.reverse ++ emitted = c :: (s.reverse ++ emitted) := by
      show mark.toList.reverse ++ emitted = _
      rw [hs]
      simp
    simp only [List.mem_cons, List.not_mem_nil, or_false] at hbracket
    rw [hmasked]
    constructor
    · intro hclose
      exact regexAllowed_bracket (hbracket.mpr hclose)
    · rintro ⟨hround, hsquare⟩
      refine regexAllowed_other hwhite hident fun hclose => ?_
      exact (hbracket.mp hclose).elim hround hsquare
  | regex body flags =>
    have hmasked : (regex body flags).masked.reverse ++ emitted =
        flags.reverse ++ '/' :: ((body.map blank).reverse ++ '/' :: emitted) := by
      simp [masked]
    rw [hmasked]
    constructor
    · rintro ⟨hknown, hkeyword⟩
      rw [regexAllowed_known hknown (by rintro _ ⟨⟩; decide)]
      simpa using hkeyword
    · rintro rfl
      exact regexAllowed_other (by decide) (by decide) (by decide)
  | string quote body =>
    have hmasked : (string quote body).masked.reverse ++ emitted =
        quote :: ((body.map blank).reverse ++ quote :: emitted) := by
      simp [masked]
    rw [hmasked]
    refine ⟨False.elim, fun _ => ?_⟩
    rcases List.mem_pair.mp hvalid.1 with rfl | rfl
    all_goals exact regexAllowed_other (by decide) (by decide) (by decide)
  | template resumes body opens =>
    refine ⟨False.elim, fun _ => ?_⟩
    cases opens with
    | true =>
      have hmasked : (template resumes body true).masked.reverse ++ emitted =
          '\x7b' :: '$' :: ((body.map blank).reverse ++ templateStart resumes :: emitted) := by
        simp [masked, templateEnd]
      rw [hmasked]
      exact regexAllowed_other (by decide) (by decide) (by decide)
    | false =>
      have hmasked : (template resumes body false).masked.reverse ++ emitted =
          '\x60' :: ((body.map blank).reverse ++ templateStart resumes :: emitted) := by
        simp [masked, templateEnd]
      rw [hmasked]
      exact regexAllowed_other (by decide) (by decide) (by decide)

end Element

/-! ## Members -/

variable {n before : List Char}

theorem isMember_white (h : isWhite c = true) :
    ScriptIdentifier.isMember ⟨c :: before, n⟩ = ScriptIdentifier.isMember ⟨before, n⟩ := by
  simp [ScriptIdentifier.isMember, h]

theorem point_of_isMember (hwhite : isWhite c = false)
    (h : ScriptIdentifier.isMember ⟨c :: before, n⟩ = true) :
    c = '.' ∧ ¬ ['.', '.'] <+: before := by
  simp only [ScriptIdentifier.isMember, List.dropWhile_cons, hwhite, Bool.false_eq_true,
    if_false] at h
  split at h
  · cases h
  · next heq hthree =>
    injection hthree with hc hbefore
    refine ⟨hc, ?_⟩
    rintro ⟨s, rfl⟩
    exact heq s hbefore.symm
  · cases h

/-! ## Trails -/

/-- The last element that the mask has not skipped, after one more element. -/
def Element.seenAfter (comment : Bool) (seen : Option Element) (e : Element) : Option Element :=
  if e.isSkipped comment then seen else some e

/-- What is known of the emitted text from the last element that was not skipped, and from the next
character of the source. -/
structure Trail (A : Alphabet) (seen : Option Element) (emitted : List Char)
    (next : Option Char) : Prop where
  apart : ∀ c ∈ emitted.head?, isScriptIdentChar c = true → ∀ d ∈ next, A.identStart d = false
  member : ∀ n, ScriptIdentifier.isMember ⟨emitted, n⟩ = true → ∃ e ∈ seen, e.EndsInPoint
  division : ∀ e ∈ seen, e.DivisionFollows → regexAllowed emitted = false
  regex : (∀ e ∈ seen, e.RegexFollows) → regexAllowed emitted = true

variable {seen : Option Element} {next : Option Char}

theorem trail_nil : Trail A none [] next where
  apart := by simp
  member n h := by simp [ScriptIdentifier.isMember] at h
  division := by simp
  regex _ := rfl

/-- Blanks change nothing but the next character. -/
theorem Trail.blanks {s : List Char} {first : Option Char} (h : Trail A seen emitted first)
    (hne : s ≠ []) (hs : ∀ c ∈ s, isScriptIdentChar c = false ∧ isWhite c = true) :
    Trail A seen (s ++ emitted) next := by
  have hregex : regexAllowed (s ++ emitted) = regexAllowed emitted := by
    clear hne
    induction s with
    | nil => rfl
    | cons c s ih =>
      rw [List.cons_append, regexAllowed_white (hs c List.mem_cons_self).2]
      exact ih fun d hd => hs d (List.mem_cons_of_mem _ hd)
  have hmember : ∀ n, ScriptIdentifier.isMember ⟨s ++ emitted, n⟩ =
      ScriptIdentifier.isMember ⟨emitted, n⟩ := by
    intro n
    clear hne hregex
    induction s with
    | nil => rfl
    | cons c s ih =>
      rw [List.cons_append, isMember_white (hs c List.mem_cons_self).2]
      exact ih fun d hd => hs d (List.mem_cons_of_mem _ hd)
  refine ⟨?_, fun n => hmember n ▸ h.member n, hregex ▸ h.division, hregex ▸ h.regex⟩
  intro c hc hident
  rw [List.head?_append_of_ne_nil _ hne] at hc
  rw [(hs c (List.mem_of_mem_head? hc)).1] at hident
  cases hident

/-- The white space that the mask does not know hides what comes before it. -/
theorem trail_unknown : Trail A (some (.white '\ufeff')) ('\ufeff' :: emitted) next where
  apart := by
    rintro _ ⟨⟩ hident
    exact absurd hident (by decide)
  member n h := absurd (point_of_isMember (by decide) h).1 (by decide)
  division := by
    rintro _ ⟨⟩ hdivision
    cases hdivision
  regex _ := regexAllowed_other (by decide) (by decide) (by decide)

theorem Trail.token {e : Element} {rest : List Char}
    (h : Trail A seen emitted (e.text ++ rest).head?)
    (hvalid : e.Valid A) (htoken : e.isTrivia = false) (hends : e.Ends A rest.head?) :
    Trail A (some e) (e.masked.reverse ++ emitted) rest.head? := by
  obtain ⟨s, c, hmasked, hedge⟩ := Element.token_masked hvalid htoken
  have hshown : e.masked.reverse ++ emitted = c :: (s.reverse ++ emitted) := by simp [hmasked]
  obtain ⟨hdivision, hregex⟩ := Element.token_slash hvalid htoken h.apart
  refine ⟨?_, ?_, ?_, fun hall => hregex (hall e rfl)⟩
  · rw [hshown]
    rintro _ ⟨⟩ hident
    exact hedge.apart hident _ hends
  · intro n hmember
    rw [hshown] at hmember
    obtain ⟨hpoint, hdots⟩ := point_of_isMember hedge.not_white hmember
    rcases hedge.point hpoint with hends | rfl
    · exact ⟨e, rfl, hends⟩
    · -- Three points are no point.
      have hs : s = ['.', '.'] := by
        have hdrop : (s ++ [c]).dropLast = ['.', '.'] := by
          rw [← hmasked]
          rfl
        simpa using hdrop
      subst hs
      exact absurd ⟨emitted, rfl⟩ hdots
  · rintro _ ⟨⟩
    exact hdivision

/-- One more element. -/
theorem Trail.element {e : Element} {rest : List Char} {comment : Bool}
    (h : Trail A seen emitted (e.text ++ rest).head?) (hvalid : e.Valid A)
    (hends : e.Ends A rest.head?) (hblank : comment = true → e.isBlankLine = true) :
    Trail A (e.seenAfter comment seen) ((e.shown comment).reverse ++ emitted) rest.head? := by
  cases hskipped : e.isSkipped comment with
  | true =>
    rw [Element.seenAfter, if_pos hskipped]
    refine h.blanks (by simpa using Element.shown_ne_nil hvalid comment) ?_
    intro c hc
    exact Element.skipped_shown hvalid hskipped c (List.mem_reverse.mp hc)
  | false =>
    rw [Element.seenAfter, hskipped, if_neg Bool.false_ne_true]
    -- Inside a comment everything is skipped.
    have hcomment : comment = false := by
      cases comment with
      | false => rfl
      | true =>
        rw [Element.isSkipped, Element.isTrivia_of_isBlankLine (hblank rfl)] at hskipped
        cases hskipped
    subst hcomment
    cases htrivia : e.isTrivia with
    | false => exact h.token hvalid htrivia hends
    | true =>
      obtain rfl : e = .white '\ufeff' := by simpa [Element.isSkipped, htrivia] using hskipped
      exact trail_unknown

end SceneCompiler.Script
