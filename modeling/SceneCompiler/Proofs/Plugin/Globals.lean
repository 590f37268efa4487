import Mathlib
import SceneCompiler.Proofs.Plugin.Edges
/-!
# Sources that mention a global are refused

The check of plugin sources looks for words in the masked source, so it finds a global only where
the mask shows it. Here the masked source is compared with the elements of the source.

* `checkSource_refuses`: a source with a global among its identifiers is refused, if the mask takes
  the elements before it for what they are (`ReadRight`).
* `checkSource_overlooks`: without these conditions it may be accepted.
-/

namespace SceneCompiler

/-! ## Words of a text -/

namespace ScriptIdentifier

variable {before word s rest : List Char} {c : Char}

theorem allFrom_word (h : ∀ c ∈ s, isScriptIdentChar c = true) :
    allFrom before word (s ++ rest) = allFrom before (s.reverse ++ word) rest := by
  induction s generalizing word with
  | nil => rfl
  | cons c s ih =>
    have hc : isScriptIdentChar c = true := h c List.mem_cons_self
    rw [List.cons_append, allFrom, if_pos hc, ih fun d hd => h d (List.mem_cons_of_mem _ hd)]
    simp

/-- A word ends at the end of the text or at another character. -/
theorem ofWord_subset_allFrom (h : ∀ c ∈ rest.head?, isScriptIdentChar c = false) :
    ofWord before word ⊆ allFrom before word rest := by
  cases rest with
  | nil => exact List.Subset.refl _
  | cons c rest =>
    have hc : isScriptIdentChar c = false := h c rfl
    rw [allFrom, hc, if_neg Bool.false_ne_true]
    exact List.subset_append_left _ _

/-- The words on both sides of a character that belongs to none. -/
theorem allFrom_append (hc : isScriptIdentChar c = false) :
    allFrom before word (s ++ c :: rest) =
      allFrom before word s ++ allFrom (c :: (s.reverse ++ (word ++ before))) [] rest := by
  induction s generalizing before word with
  | nil =>
    show (if isScriptIdentChar c then _ else _) = _
    rw [hc, if_neg Bool.false_ne_true]
    rfl
  | cons d s ih =>
    rw [List.cons_append, allFrom, allFrom]
    split
    · rw [ih]
      simp
    · rw [ih, List.append_assoc]
      simp

/-- A word between other characters is found, unless it starts with a digit. -/
theorem mem_all {emitted : List Char} (hbefore : ∀ c ∈ emitted.head?, isScriptIdentChar c = false)
    (hword : ∀ d ∈ c :: word, isScriptIdentChar d = true) (hdigit : c.isDigit = false)
    (hrest : ∀ c ∈ rest.head?, isScriptIdentChar c = false) :
    ⟨emitted, c :: word⟩ ∈ all (emitted.reverse ++ (c :: word ++ rest)) := by
  have hfound : ⟨emitted, c :: word⟩ ∈ allFrom emitted [] (c :: word ++ rest) := by
    rw [allFrom_word hword]
    refine ofWord_subset_allFrom hrest ?_
    simp [ofWord, hdigit]
  cases emitted with
  | nil => exact hfound
  | cons d emitted =>
    have hall : all ((d :: emitted).reverse ++ (c :: word ++ rest)) =
        allFrom [] [] emitted.reverse ++ allFrom (d :: emitted) [] (c :: word ++ rest) := by
      rw [List.reverse_cons, List.append_assoc, List.singleton_append, all,
        allFrom_append (hbefore d rfl), List.reverse_reverse, List.append_nil, List.append_nil]
    rw [hall]
    exact List.mem_append_right _ hfound

end ScriptIdentifier

/-! ## Text that is emitted stays -/

namespace Mask

variable {s t : State} {c : Char} {rest : List Char}

theorem emitted_stepCode (s : State) (c : Char) (next : Option Char) :
    ∃ d, (d = c ∨ d = blank c) ∧ (stepCode s c next).emitted = d :: s.emitted := by
  unfold stepCode State.mask State.keep
  split_ifs
  any_goals exact ⟨c, .inl rfl, rfl⟩
  any_goals exact ⟨blank c, .inr rfl, rfl⟩
  -- A closing brace may end an expression inside a template.
  split
  · split_ifs <;> exact ⟨c, .inl rfl, rfl⟩
  · exact ⟨c, .inl rfl, rfl⟩

/-- Every step emits the character or its blank. -/
theorem emitted_step {next : Option Char} (h : step s c next = .ok t) :
    ∃ d, (d = c ∨ d = blank c) ∧ t.emitted = d :: s.emitted := by
  have hkeep : ∀ mode, ∃ d, (d = c ∨ d = blank c) ∧ (s.keep c mode).emitted = d :: s.emitted :=
    fun _ => ⟨c, .inl rfl, rfl⟩
  have hmask : ∀ mode, ∃ d, (d = c ∨ d = blank c) ∧ (s.mask c mode).emitted = d :: s.emitted :=
    fun _ => ⟨blank c, .inr rfl, rfl⟩
  unfold step at h
  split at h
  case h_1 =>
    obtain rfl := Except.ok.inj h
    exact emitted_stepCode s c next
  case h_9 =>
    obtain rfl := Except.ok.inj h
    exact ⟨c, .inl rfl, rfl⟩
  all_goals
    try split_ifs at h
    all_goals
      cases h
      first
        | exact hkeep _
        | exact hmask _

theorem emitted_run (h : run s rest = .ok t) : ∃ post : List Char,
    t.emitted = post.reverse ++ s.emitted ∧
      ∀ d ∈ post.head?, ∃ c ∈ rest.head?, d = c ∨ d = blank c := by
  induction rest generalizing s with
  | nil =>
    obtain rfl := Except.ok.inj h
    exact ⟨[], rfl, by simp⟩
  | cons c rest ih =>
    rw [run] at h
    cases hstep : step s c rest.head? with
    | error what =>
      rw [hstep] at h
      cases h
    | ok u =>
      rw [hstep] at h
      obtain ⟨d, hd, hemitted⟩ := emitted_step hstep
      obtain ⟨post, hpost, -⟩ := ih h
      refine ⟨d :: post, ?_, by simpa using hd⟩
      rw [hpost, hemitted]
      simp

end Mask

/-! ## Lists of elements -/

namespace Script

open Mask

variable {A : Alphabet} {stack : List Open} {emitted : List Char} {seen prev : Option Element}
  {es tail : List Element} {comment : Bool}

namespace Element

instance (word : List Char) : Decidable (IsKnown word) :=
  inferInstanceAs (Decidable (_ ∧ _))

instance : (e : Element) → Decidable e.DivisionFollows
  | punctuator mark => inferInstanceAs (Decidable (mark = ")" ∨ mark = "]"))
  | number literal => inferInstanceAs (Decidable (literal.getLast? ≠ some '.'))
  | identifier parts =>
    inferInstanceAs (Decidable (IsKnown (parts.flatMap IdentifierPart.text) ∧ _))
  | regex _ flags => inferInstanceAs (Decidable (IsKnown flags ∧ _))
  | white _ | terminator _ | lineComment _ | blockComment _ | string _ _ | template _ _ _ =>
    inferInstanceAs (Decidable False)

instance : (e : Element) → Decidable e.RegexFollows
  | white _ | string _ _ | template _ _ _ => inferInstanceAs (Decidable True)
  | punctuator mark => inferInstanceAs (Decidable (mark ≠ ")" ∧ mark ≠ "]"))
  | number literal => inferInstanceAs (Decidable (literal.getLast? = some '.'))
  | identifier parts =>
    inferInstanceAs (Decidable (IsKnown (parts.flatMap IdentifierPart.text) ∧ _))
  | regex _ flags => inferInstanceAs (Decidable (flags = []))
  | terminator _ | lineComment _ | blockComment _ => inferInstanceAs (Decidable False)

/-- The mask takes a slash for what it is, if it knows so from the last element that it has not
skipped. At the start of a source it expects a regular expression. -/
def SlashRead (seen : Option Element) : Element → Prop
  | punctuator mark => mark ∈ ["/", "/="] → ∃ e ∈ seen, e.DivisionFollows
  | regex _ _ => ∀ e ∈ seen, e.RegexFollows
  | _ => True

instance (seen : Option Element) : (e : Element) → Decidable (e.SlashRead seen)
  | punctuator mark =>
    inferInstanceAs (Decidable (mark ∈ ["/", "/="] → ∃ e ∈ seen, e.DivisionFollows))
  | regex _ _ => inferInstanceAs (Decidable (∀ e ∈ seen, e.RegexFollows))
  | white _ | terminator _ | lineComment _ | blockComment _ | identifier _ | number _ | string _ _
  | template _ _ _ => inferInstanceAs (Decidable True)

theorem SlashRead.taken {e : Element} {next : Option Char} (htrail : Trail A seen emitted next)
    (h : e.SlashRead seen) : e.SlashTaken emitted := by
  cases e with
  | punctuator mark =>
    intro hmark
    obtain ⟨e, he, hdivision⟩ := h hmark
    exact htrail.division e he hdivision
  | regex body flags => exact htrail.regex h
  | white | terminator | lineComment | blockComment | identifier | number | string | template =>
    trivial

end Element

/-- The mask takes the elements of a list for what they are: it knows slashes from the elements
before, and a comment that ends at another line end than a line feed has only line ends, white space
and comments after it up to the next line feed. -/
def ReadRight : Bool → Option Element → List Element → Prop
  | comment, _, [] => comment = false
  | comment, seen, e :: es =>
    (comment = true → e.isBlankLine = true) ∧ e.SlashRead seen ∧
      ReadRight (e.commentAfter comment) (e.seenAfter comment seen) es

instance decidableReadRight : (comment : Bool) → (seen : Option Element) → (es : List Element) →
    Decidable (ReadRight comment seen es)
  | comment, _, [] => inferInstanceAs (Decidable (comment = false))
  | comment, seen, e :: es =>
    have := decidableReadRight (e.commentAfter comment) (e.seenAfter comment seen) es
    inferInstanceAs (Decidable ((comment = true → e.isBlankLine = true) ∧ e.SlashRead seen ∧ _))

/-- The last element of a list that the mask has not skipped. -/
def lastSeen : Bool → Option Element → List Element → Option Element
  | _, seen, [] => seen
  | comment, seen, e :: es => lastSeen (e.commentAfter comment) (e.seenAfter comment seen) es

theorem lastToken?_cons (e : Element) (es : List Element) :
    lastToken? (e :: es) = (lastToken? es).or (if e.isTrivia then none else some e) := by
  unfold lastToken?
  rw [List.reverse_cons, List.find?_append]
  cases h : e.isTrivia <;> simp [h]

/-- If it is a token, it is the last one. -/
theorem lastToken?_of_lastSeen (hseen : ∀ e ∈ seen, e.isTrivia = false → prev = some e) :
    ∀ e ∈ lastSeen comment seen es, e.isTrivia = false → (lastToken? es).or prev = some e := by
  induction es generalizing comment seen prev with
  | nil => exact hseen
  | cons e es ih =>
    rw [lastToken?_cons, Option.or_assoc]
    refine ih ?_
    intro d hd hdtoken
    rw [Element.seenAfter] at hd
    split at hd
    · next hskipped =>
      have htrivia : e.isTrivia = true := (Bool.and_eq_true_iff.mp hskipped).1
      rw [if_pos htrivia, Option.none_or]
      exact hseen d hd hdtoken
    · obtain rfl := Option.some.inj hd
      rw [hdtoken]
      rfl

/-- The mask reads the elements of a list one by one, unless it ends with an error. -/
theorem run_elements (hlexed : Lexed A stack (es ++ tail))
    (htrail : Trail A seen emitted (sourceText (es ++ tail)).head?)
    (hread : ReadRight comment seen es) :
    (∃ what, run (scanned stack emitted (codeMode comment)) (sourceText (es ++ tail)) =
        .error what) ∨
      ∃ stack' emitted', Lexed A stack' tail ∧
        Trail A (lastSeen comment seen es) emitted' (sourceText tail).head? ∧
        run (scanned stack emitted (codeMode comment)) (sourceText (es ++ tail)) =
          run (scanned stack' emitted' .code) (sourceText tail) := by
  -- One element at a time. The trail says how the mask takes the slashes of the next one.
  induction es generalizing stack emitted seen comment with
  | nil =>
    have hcomment : comment = false := hread
    subst hcomment
    exact .inr ⟨stack, emitted, hlexed, htrail, rfl⟩
  | cons e es ih =>
    obtain ⟨hblank, hslash, hread⟩ := hread
    rw [List.cons_append, lexed_cons] at hlexed
    obtain ⟨hvalid, hfits, hends, hlexed⟩ := hlexed
    have htext : sourceText (e :: es ++ tail) = e.text ++ sourceText (es ++ tail) := rfl
    rw [htext] at htrail ⊢
    rcases run_element hvalid hfits hends (hslash.taken htrail) hblank with hrun | herror
    · rw [hrun]
      exact ih hlexed (htrail.element hvalid hends hblank) hread
    · exact .inl herror

/-! ## Disallowed globals -/

/-- No identifier character comes after an identifier. -/
theorem not_isScriptIdentChar_after (hlexed : Lexed A stack es)
    (h : ∀ c ∈ (sourceText es).head?, A.identPart c = false ∧ c ≠ '\\') :
    ∀ c ∈ (sourceText es).head?, isScriptIdentChar c = false := by
  cases es with
  | nil => simp [sourceText]
  | cons e es =>
    obtain ⟨c, s, htext, hc⟩ := Element.text_start (lexed_cons.mp hlexed).1
    have hhead : (sourceText (e :: es)).head? = some c := by
      show (e.text ++ sourceText es).head? = some c
      rw [htext]
      rfl
    rw [hhead] at h ⊢
    obtain ⟨hpart, hback⟩ := h c rfl
    rintro _ ⟨⟩
    rcases hc with hc | hc | rfl
    · exact hc
    · rw [hpart] at hc
      cases hc
    · exact absurd rfl hback

theorem disallowed_cases {word : String} (h : word ∈ disallowedGlobals) :
    ∃ c s, word.toList = c :: s ∧ c.isDigit = false ∧ ∀ d ∈ c :: s, isScriptIdentChar d = true := by
  have hall : (disallowedGlobals.all fun word => word.toList.all isScriptIdentChar &&
      word.toList.head?.any fun c => !c.isDigit) = true := by
    decide
  have hword := List.all_eq_true.mp hall word h
  rw [Bool.and_eq_true, Option.any_eq_true] at hword
  obtain ⟨hident, c, hhead, hdigit⟩ := hword
  obtain ⟨s, hs⟩ := List.head?_eq_some_iff.mp hhead
  exact ⟨c, s, hs, by simpa using hdigit, hs ▸ List.all_eq_true.mp hident⟩

/-- A source is refused if it cannot be masked, or if a word of it is disallowed. -/
theorem checkSource_of_found {source : List Char} (h : ∀ masked, maskLiterals source = .ok masked →
    ∃ i ∈ ScriptIdentifier.all masked, i.isDisallowed = true) :
    ∃ e, checkSource (String.ofList source) = .error e := by
  unfold checkSource
  rw [String.toList_ofList]
  split
  · exact ⟨_, rfl⟩
  · next masked hmasked =>
    obtain ⟨i, hi, hdisallowed⟩ := h masked hmasked
    split
    · exact ⟨_, rfl⟩
    · next hnone =>
      have hnot := List.find?_eq_none.mp hnone i hi
      exact absurd hdisallowed hnot

/-- The word after some elements is written without escapes, and the mask reads the elements as they
are, where a number does not end in a point right before the word. -/
structure Legible (before : List Element) (word : List IdentifierPart) : Prop where
  read : ReadRight false none before
  plain : word.flatMap IdentifierPart.text = identifierName word
  point : ∀ literal, lastToken? before = some (.number literal) → literal.getLast? ≠ some '.'

/-- A word is no member for the mask if the token before it does not end in a point. -/
theorem not_isMember_of_trail {before : List Element} {next : Option Char} {name : List Char}
    (htrail : Trail A (lastSeen false none before) emitted next)
    (h : ∀ e ∈ lastToken? before, ¬ e.EndsInPoint) :
    ScriptIdentifier.isMember ⟨emitted, name⟩ = false := by
  rw [Bool.eq_false_iff]
  intro hmember
  obtain ⟨e, he, hpoint⟩ := htrail.member name hmember
  have htoken : e.isTrivia = false := by
    cases e with
    | punctuator | number => rfl
    | white | terminator | lineComment | blockComment | identifier | string | regex | template =>
      cases hpoint
  have hlast : (lastToken? before).or none = some e := lastToken?_of_lastSeen (by simp) e he htoken
  rw [Option.or_none] at hlast
  exact h e hlast hpoint

theorem Legible.not_endsInPoint {before : List Element} {word : List IdentifierPart}
    (h : Legible before word)
    (hpoint : ∀ e ∈ lastToken? before, e ≠ .punctuator "." ∧ e ≠ .punctuator "?.") :
    ∀ e ∈ lastToken? before, ¬ e.EndsInPoint := by
  intro e he hends
  cases e with
  | punctuator mark =>
    rcases hends with rfl | rfl
    · exact (hpoint _ he).1 rfl
    · exact (hpoint _ he).2 rfl
  | number literal => exact h.point literal he hends
  | white | terminator | lineComment | blockComment | identifier | string | regex | template =>
    cases hends

/-- A global that follows other elements is found in the masked source. -/
theorem disallowed_mem_all {word : List IdentifierPart} {after : List Element} {t : State}
    (hlexed : Lexed A stack (.identifier word :: after))
    (hword : String.ofList (identifierName word) ∈ disallowedGlobals)
    (hplain : word.flatMap IdentifierPart.text = identifierName word)
    (hapart : ∀ c ∈ emitted.head?, isScriptIdentChar c = true →
      ∀ d ∈ (sourceText (.identifier word :: after)).head?, A.identStart d = false)
    (hrun : run (scanned stack emitted .code) (sourceText (.identifier word :: after)) = .ok t) :
    ⟨emitted, identifierName word⟩ ∈ ScriptIdentifier.all t.emitted.reverse := by
  obtain ⟨hvalid, -, hends, hafter⟩ := lexed_cons.mp hlexed
  obtain ⟨c, s, hname, hdigit, hident⟩ := disallowed_cases hword
  rw [String.toList_ofList] at hname
  have htext : word.flatMap IdentifierPart.text = c :: s := hplain.trans hname
  have hemit : run (scanned stack emitted .code) (sourceText (.identifier word :: after)) =
      run (scanned stack ((c :: s).reverse ++ emitted) .code) (sourceText after) := by
    rw [← htext]
    exact run_identifier hvalid.part hvalid.written
  rw [hemit] at hrun
  obtain ⟨post, hpost, hnext⟩ := emitted_run hrun
  -- The characters around the word are none of identifiers.
  have hbefore : ∀ d ∈ emitted.head?, isScriptIdentChar d = false := by
    intro d hd
    rw [Bool.eq_false_iff]
    intro hd'
    obtain ⟨p, hp, hstart⟩ := hvalid.start
    have hvalue : c = p.value := by
      have hhead : (identifierName word).head? = some p.value := by
        rw [identifierName, List.head?_map, hp]
        rfl
      rw [hname] at hhead
      exact Option.some.inj hhead
    have hhead : (sourceText (.identifier word :: after)).head? = some c := by
      show (word.flatMap IdentifierPart.text ++ sourceText after).head? = some c
      rw [htext]
      rfl
    have hnot := hapart d hd hd' c hhead
    rw [hvalue, hstart] at hnot
    cases hnot
  have hrest : ∀ d ∈ post.head?, isScriptIdentChar d = false := by
    intro d hd
    obtain ⟨d', hd', hsame⟩ := hnext d hd
    have hafter' := not_isScriptIdentChar_after hafter hends d' hd'
    rcases hsame with rfl | rfl
    · exact hafter'
    · exact (Element.blank_edges d').1
  have hall := ScriptIdentifier.mem_all hbefore hident hdigit hrest
  rw [hname, hpost]
  simpa [scanned] using hall

/-- A source that mentions a global is refused, at any depth of templates. -/
theorem checkSource_refuses (A : Alphabet) (before after : List Element)
    (word : List IdentifierPart) (hlexed : Lexed A [] (before ++ .identifier word :: after))
    (hword : String.ofList (identifierName word) ∈ disallowedGlobals)
    (hpoint : ∀ e ∈ lastToken? before, e ≠ .punctuator "." ∧ e ≠ .punctuator "?.")
    (hlegible : Legible before word) :
    ∃ e, checkSource (String.ofList (sourceText (before ++ .identifier word :: after))) =
      .error e := by
  refine checkSource_of_found ?_
  intro masked hmasked
  obtain ⟨t, hrun, -, rfl⟩ := maskLiterals_eq_ok_iff.mp hmasked
  have hstart : ({} : State) = scanned [] [] (codeMode false) := rfl
  rw [hstart] at hrun
  -- The mask reaches the word in code, with a trail of what comes before.
  rcases run_elements hlexed trail_nil hlegible.read with
    ⟨what, herror⟩ | ⟨stack, emitted, htail, htrail, hreach⟩
  · rw [herror] at hrun
    cases hrun
  · rw [hreach] at hrun
    refine ⟨⟨emitted, identifierName word⟩,
      disallowed_mem_all htail hword hlegible.plain htrail.apart hrun, ?_⟩
    have hmember : ScriptIdentifier.isMember ⟨emitted, identifierName word⟩ = false :=
      not_isMember_of_trail htrail (hlegible.not_endsInPoint hpoint)
    have hcontains : disallowedGlobals.contains (String.ofList (identifierName word)) = true :=
      List.contains_iff_mem.mpr hword
    simp only [ScriptIdentifier.isDisallowed, hmember, hcontains]
    rfl

/-- A word inside a template, after a comment that ends with two characters, a regular expression
with a slash in a class, and a division. -/
theorem checkSource_refuses_in_template :
    ∃ e, checkSource "// a\r\n/[/]/g.test(\x60$\x7bb / 2\x7d$\x7bfetch(v)\x7d\x60)" =
      .error e := by
  have htest : IsIdentifier .ascii (plainWord "test") := isIdentifier_plainWord rfl rfl
  have hb : IsIdentifier .ascii (plainWord "b") := isIdentifier_plainWord rfl rfl
  have hfetch : IsIdentifier .ascii (plainWord "fetch") := isIdentifier_plainWord rfl rfl
  have hv : IsIdentifier .ascii (plainWord "v") := isIdentifier_plainWord rfl rfl
  have htwo : NumericLiteral ['2'] :=
    NumericLiteral.integer (Digits.one (c := '2') rfl) List.mem_cons_self
  have hslash : RegexChars ['[', '/', ']'] :=
    .bracketed (k := ['/']) (.char (by decide) (by decide) (by decide) .nil) .nil
  have hlexed : Lexed .ascii []
      ([.lineComment [' ', 'a'], .terminator '\r', .terminator '\n', .regex ['[', '/', ']'] ['g'],
        .punctuator ".", .identifier (plainWord "test"), .punctuator "(", .template false [] true,
        .identifier (plainWord "b"), .white ' ', .punctuator "/", .white ' ', .number ['2'],
        .template true [] true] ++ .identifier (plainWord "fetch") ::
      [.punctuator "(", .identifier (plainWord "v"), .punctuator ")", .template true [] false,
        .punctuator ")"]) := by
    simp [lexed_cons, Lexed.nil, TemplateChars.nil, Element.Valid, Element.Fits, Element.Ends,
      Element.nest, sourceText, Element.text, lineTerminators, punctuators, whiteSpace,
      Alphabet.identPart, templateStart, templateEnd, htwo, hslash, htest, hb, hfetch, hv]
    decide
  exact checkSource_refuses _ _ _ _ hlexed (by decide +kernel) (by decide +kernel)
    ⟨by decide +kernel, by decide +kernel,
      fun literal h => by simp [lastToken?, Element.isTrivia] at h⟩

/-- A source with a global among its identifiers that is accepted nevertheless. -/
def Overlooked (source : String) : Prop :=
  ∃ before word after, Lexed .ascii [] (before ++ .identifier word :: after) ∧
    String.ofList (identifierName word) ∈ disallowedGlobals ∧
    (∀ e ∈ lastToken? before, e ≠ .punctuator "." ∧ e ≠ .punctuator "?.") ∧
    String.ofList (sourceText (before ++ .identifier word :: after)) = source ∧
    checkSource source = .ok ()

/-- Comments that end at a carriage return, divisions after strings, regular expressions after
brackets, numbers that end in a point, and escapes hide the word after them. -/
theorem checkSource_overlooks :
    Overlooked "// a\rfetch(v)" ∧ Overlooked "\"a\" / fetch(v) / 1" ∧
      Overlooked "if(x)/\"/;fetch(v)//\"" ∧ Overlooked "1.\nfetch(v)" ∧
      Overlooked "\\u0066etch(v)" := by
  have hif : IsIdentifier .ascii (plainWord "if") := isIdentifier_plainWord rfl rfl
  have hx : IsIdentifier .ascii (plainWord "x") := isIdentifier_plainWord rfl rfl
  have hfetch : IsIdentifier .ascii (plainWord "fetch") := isIdentifier_plainWord rfl rfl
  have hv : IsIdentifier .ascii (plainWord "v") := isIdentifier_plainWord rfl rfl
  have hescaped : IsIdentifier .ascii (.escape ['0', '0', '6', '6'] :: plainWord "etch") := by
    refine ⟨⟨_, rfl, by decide⟩, by simp [plainWord]; decide, ?_⟩
    simp [plainWord, IdentifierPart.Written]
    decide
  have ha : StringChars '"' ['a'] := .char (by decide) (by decide) (by decide) (by decide) .nil
  have hquote : RegexChars ['"'] := .char (by decide) (by decide) (by decide) (by decide) .nil
  have hone : NumericLiteral ['1'] :=
    NumericLiteral.integer (Digits.one (c := '1') rfl) List.mem_cons_self
  have hpoint : NumericLiteral ['1', '.'] :=
    NumericLiteral.decimal (Digits.one (c := '1') rfl) (.inl rfl) (.inl rfl)
  refine ⟨⟨[.lineComment [' ', 'a'], .terminator '\r'], plainWord "fetch",
      [.punctuator "(", .identifier (plainWord "v"), .punctuator ")"],
      ?_, by decide +kernel, by decide +kernel, by decide +kernel, by decide +kernel⟩,
    ⟨[.string '"' ['a'], .white ' ', .punctuator "/", .white ' '], plainWord "fetch",
      [.punctuator "(", .identifier (plainWord "v"), .punctuator ")", .white ' ', .punctuator "/",
        .white ' ', .number ['1']],
      ?_, by decide +kernel, by decide +kernel, by decide +kernel, by decide +kernel⟩,
    ⟨[.identifier (plainWord "if"), .punctuator "(", .identifier (plainWord "x"), .punctuator ")",
        .regex ['"'] [], .punctuator ";"], plainWord "fetch",
      [.punctuator "(", .identifier (plainWord "v"), .punctuator ")", .lineComment ['"']],
      ?_, by decide +kernel, by decide +kernel, by decide +kernel, by decide +kernel⟩,
    ⟨[.number ['1', '.'], .terminator '\n'], plainWord "fetch",
      [.punctuator "(", .identifier (plainWord "v"), .punctuator ")"],
      ?_, by decide +kernel, by decide +kernel, by decide +kernel, by decide +kernel⟩,
    ⟨[], .escape ['0', '0', '6', '6'] :: plainWord "etch",
      [.punctuator "(", .identifier (plainWord "v"), .punctuator ")"],
      ?_, by decide +kernel, by decide +kernel, by decide +kernel, by decide +kernel⟩⟩
  all_goals
    simp [lexed_cons, Lexed.nil, Element.Valid, Element.Fits, Element.Ends, Element.nest,
      sourceText, Element.text, lineTerminators, punctuators, whiteSpace, Alphabet.identPart, hif,
      hx, hfetch, hv, hescaped, ha, hquote, hone, hpoint]
    decide

end Script

end SceneCompiler
