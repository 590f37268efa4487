import Mathlib
import SceneCompiler.Proofs.Plugin.Lexical
import SceneCompiler.Proofs.Plugin.Literals
/-!
# The mask reads elements

Run over the text of an element, the mask emits the element as it is or its blanks, and stands
between two elements again. It counts open braces, and for each open expression inside a template it
keeps the count at which that started. A stack of both is easier to follow.

* `scanned`: the states of the mask between two elements.
* `run_element`: an element takes it from one such state to another, or it ends with an error.
-/

namespace SceneCompiler.Script

open Mask

/-! ## States between elements -/

/-- The depths at which the open expressions inside templates started. -/
def expressionDepths : List Open → List Nat
  | [] => []
  | .brace :: stack => expressionDepths stack
  | .expression :: stack => stack.length :: expressionDepths stack

theorem lt_of_mem_expressionDepths {stack : List Open} {d : Nat}
    (h : d ∈ expressionDepths stack) : d < stack.length := by
  induction stack with
  | nil => cases h
  | cons o stack ih =>
    rw [List.length_cons]
    cases o with
    | brace =>
      have := ih h
      omega
    | expression =>
      rcases List.mem_cons.mp h with rfl | h
      · omega
      · have := ih h
        omega

/-- The machine with some braces open and some text emitted, the last character first. -/
def scanned (stack : List Open) (emitted : List Char) (mode : Mode) : State :=
  { mode, templates := expressionDepths stack, depth := stack.length, emitted }

variable {stack : List Open} {emitted rest text : List Char} {c : Char}

@[simp] theorem blank_backslash : blank '\\' = ' ' := rfl

/-! ## Code -/

/-- Characters that mean nothing to the mask in code. -/
def IsPlain (c : Char) : Prop :=
  c ∉ ['/', '\'', '"', '\x60', '\x7b', '\x7d']

instance (c : Char) : Decidable (IsPlain c) := by unfold IsPlain; infer_instance

theorem run_plain (h : ∀ c ∈ text, IsPlain c) :
    run (scanned stack emitted .code) (text ++ rest) =
      run (scanned stack (text.reverse ++ emitted) .code) rest := by
  induction text generalizing emitted with
  | nil => rfl
  | cons c text ih =>
    have hc : IsPlain c := h c (List.mem_cons_self)
    have hstep : step (scanned stack emitted .code) c (text ++ rest).head? =
        .ok (scanned stack (c :: emitted) .code) := by
      simp only [IsPlain, List.mem_cons, List.not_mem_nil, not_or, or_false] at hc
      simp [step, scanned, stepCode, hc, State.keep]
    rw [List.cons_append, run_cons hstep, ih fun d hd => h d (List.mem_cons_of_mem _ hd)]
    simp

theorem run_openBrace : run (scanned stack emitted .code) ('\x7b' :: rest) =
    run (scanned (.brace :: stack) ('\x7b' :: emitted) .code) rest :=
  run_cons rfl

/-- A closing brace that does not close an expression inside a template. -/
theorem run_closeBrace (h : stack.head? ≠ some .expression) :
    run (scanned stack emitted .code) ('\x7d' :: rest) =
      run (scanned stack.tail ('\x7d' :: emitted) .code) rest := by
  refine run_cons ?_
  cases stack with
  | nil => rfl
  | cons o stack =>
    cases o with
    | expression => exact absurd rfl h
    | brace =>
      -- The innermost expression started below this brace.
      cases hdepths : expressionDepths stack with
      | nil => simp [step, scanned, stepCode, expressionDepths, hdepths, State.keep]
      | cons d outer =>
        have hlt : d < stack.length := lt_of_mem_expressionDepths (by simp [hdepths])
        have hne : d ≠ stack.length := by omega
        simp [step, scanned, stepCode, expressionDepths, hdepths, hne, State.keep]

theorem run_resume : run (scanned (.expression :: stack) emitted .code) ('\x7d' :: rest) =
    run (scanned stack ('\x7d' :: emitted) .template) rest := by
  refine run_cons ?_
  simp [step, scanned, stepCode, expressionDepths, State.keep]

/-! ## Comments -/

theorem contents_lineComment (h : '\n' ∉ text) : Contents .lineComment .lineComment text := by
  induction text with
  | nil => exact .nil
  | cons c text ih =>
    rw [List.mem_cons, not_or] at h
    exact .cons (.lineComment (Ne.symm h.1)) (ih h.2)

/-- A comment to the end of the line goes on to the next line feed. -/
theorem run_lineComment (h : '\n' ∉ text) :
    run (scanned stack emitted .lineComment) (text ++ rest) =
      run (scanned stack ((text.map blank).reverse ++ emitted) .lineComment) rest := by
  have hcontents := contents_lineComment h
  exact run_contents (s := scanned stack emitted .lineComment) hcontents (by nofun) (by nofun)

theorem contents_block (h : ¬ ['*', '/'] <:+: text) : Contents .blockComment .block text := by
  induction text with
  | nil => exact .nil
  | cons c text ih =>
    have htail : ¬ ['*', '/'] <:+: text := fun hin => h (hin.trans (List.suffix_cons c text).isInfix)
    refine .cons (.block ?_) (ih htail)
    rintro ⟨rfl, hhead⟩
    obtain ⟨text, rfl⟩ := List.head?_eq_some_iff.mp hhead
    exact h (List.IsPrefix.isInfix ⟨text, rfl⟩)

theorem run_block (h : ¬ ['*', '/'] <:+: text) :
    run (scanned stack emitted .block) (text ++ '*' :: '/' :: rest) =
      run (scanned stack (((text ++ ['*', '/']).map blank).reverse ++ emitted) .code) rest := by
  have hclosing : run (scanned stack ((text.map blank).reverse ++ emitted) .block)
      ('*' :: '/' :: rest) =
        run (scanned stack (' ' :: ' ' :: ((text.map blank).reverse ++ emitted)) .code) rest :=
    rfl
  have hcontents := contents_block h
  refine (run_contents (s := scanned stack emitted .block) hcontents (by simp) (by nofun)).trans ?_
  rw [List.map_append, List.reverse_append, List.append_assoc]
  exact hclosing

/-! ## Strings, regular expressions, templates -/

/-- A string, or an error at a line continuation with a line end of two characters. -/
theorem run_quoted {quote : Char} (hquote : quote ≠ '\\' ∧ quote ≠ '\n')
    (h : StringChars quote text) :
    run (scanned stack emitted (.quoted quote)) (text ++ quote :: rest) =
        run (scanned stack (quote :: ((text.map blank).reverse ++ emitted)) .code) rest ∨
      ∃ what, run (scanned stack emitted (.quoted quote)) (text ++ quote :: rest) =
        .error what := by
  induction h generalizing emitted with
  | nil => exact .inl (run_cons (by simp [step, scanned, hquote, State.keep]))
  | @char c s hcquote hback hfeed hreturn _ ih =>
    have hstep : step (scanned stack emitted (.quoted quote)) c (s ++ quote :: rest).head? =
        .ok (scanned stack (blank c :: emitted) (.quoted quote)) := by
      simp [step, scanned, hback, hfeed, hcquote, State.mask, State.keep]
    rw [List.cons_append, run_cons hstep]
    simpa using @ih (blank c :: emitted)
  | @escape c s _ ih =>
    have hfirst : run (scanned stack emitted (.quoted quote)) ('\\' :: c :: (s ++ quote :: rest)) =
        run (scanned stack (blank c :: ' ' :: emitted) (.quoted quote)) (s ++ quote :: rest) := by
      rw [run_cons (t := scanned stack (' ' :: emitted) (.escaped (.quoted quote))) rfl]
      exact run_cons rfl
    rw [List.cons_append, List.cons_append, hfirst]
    simpa using @ih (blank c :: ' ' :: emitted)
  | @continuation s _ _ =>
    refine .inr ⟨.string, ?_⟩
    rw [List.cons_append, List.cons_append, List.cons_append,
      run_cons (t := scanned stack (' ' :: emitted) (.escaped (.quoted quote))) rfl,
      run_cons (t := scanned stack (' ' :: ' ' :: emitted) (.quoted quote)) rfl]
    rfl

theorem ClassChars.contents {s : List Char} (h : ClassChars text)
    (hs : Contents .regex (.regex false) s) : Contents .regex (.regex true) (text ++ ']' :: s) := by
  induction h with
  | nil => exact .cons (.regex (by decide) (by decide)) hs
  | @char c _ hline hbracket hback _ ih =>
    have hfeed : c ≠ '\n' := by
      rintro rfl
      exact hline (by decide)
    refine .cons (.regex (by simp [hback, hfeed]) (by simp)) ?_
    rw [if_neg hbracket]
    simpa using ih
  | escape _ _ ih => exact .cons (.backslash rfl) (.cons .escaped ih)

theorem RegexChars.contents (h : RegexChars text) : Contents .regex (.regex false) text := by
  induction h with
  | nil => exact .nil
  | @char c _ hline hback hslash hbracket _ ih =>
    have hfeed : c ≠ '\n' := by
      rintro rfl
      exact hline (by decide)
    refine .cons (.regex (by simp [hback, hfeed]) (by simp [hslash])) ?_
    rw [if_neg hbracket, ite_self]
    exact ih
  | escape _ _ ih => exact .cons (.backslash rfl) (.cons .escaped ih)
  | bracketed hk _ ih => exact .cons (.regex (by decide) (by decide)) (hk.contents ih)

theorem run_regex (h : RegexChars text) :
    run (scanned stack emitted (.regex false)) (text ++ '/' :: rest) =
      run (scanned stack ('/' :: ((text.map blank).reverse ++ emitted)) .code) rest := by
  have hcontents := h.contents
  exact run_contents (s := scanned stack emitted (.regex false)) hcontents (by nofun) (by nofun)

theorem TemplateChars.contents (h : TemplateChars text) : Contents .chunk .template text := by
  induction h with
  | nil => exact .nil
  | char htick hback hdollar _ ih =>
    exact .cons (.template (by simp [hback, htick]) fun h => hdollar h.1 h.2) ih
  | escape _ ih => exact .cons (.backslash rfl) (.cons .escaped ih)

/-- The characters of a template up to a backtick, or to the expression that opens next. -/
theorem run_template (h : TemplateChars text) (opens : Bool) :
    run (scanned stack emitted .template)
        (text ++ templateEnd opens ++ rest) =
      run (scanned (if opens then .expression :: stack else stack)
        ((templateEnd opens).reverse ++ ((text.map blank).reverse ++ emitted)) .code)
        rest := by
  have hbrace : (templateEnd opens ++ rest).head? ≠ some '\x7b' := by
    cases opens <;> simp [templateEnd]
  have hcontents := h.contents
  rw [List.append_assoc]
  refine (run_contents (s := scanned stack emitted .template) hcontents (by nofun)
    fun _ => hbrace).trans ?_
  cases opens <;> rfl

/-! ## Identifiers and numbers -/

variable {A : Alphabet}

theorem isPlain_of_isAlphanum (h : c.isAlphanum = true) : IsPlain c := by
  intro hmem
  simp only [List.mem_cons, List.not_mem_nil, or_false] at hmem
  rcases hmem with rfl | rfl | rfl | rfl | rfl | rfl <;> exact absurd h (by decide)

theorem isPlain_of_identPart (h : A.identPart c = true) : IsPlain c := by
  intro hmem
  simp only [List.mem_cons, List.not_mem_nil, or_false] at hmem
  rcases hmem with rfl | rfl | rfl | rfl | rfl | rfl
  all_goals
    rw [Alphabet.identPart, A.part_ascii _ (by decide)] at h
    exact absurd h (by decide)

/-- An escape with braces leaves as many braces open as before. -/
theorem run_identifierPart {p : IdentifierPart} (hpart : A.identPart p.value = true)
    (hwritten : p.Written) :
    run (scanned stack emitted .code) (p.text ++ rest) =
      run (scanned stack (p.text.reverse ++ emitted) .code) rest := by
  have hdigit : ∀ c, (Json.hexValue? c).isSome → IsPlain c := fun c hc =>
    isPlain_of_isAlphanum (isAlphanum_of_hexValue? hc)
  have hback : IsPlain '\\' := by decide
  have hu : IsPlain 'u' := by decide
  cases p with
  | char c =>
    have hc : IsPlain c := isPlain_of_identPart hpart
    exact run_plain (by simpa [IdentifierPart.text] using hc)
  | escape digits =>
    refine run_plain ?_
    intro c hc
    rcases List.mem_cons.mp hc with rfl | hc
    · exact hback
    rcases List.mem_cons.mp hc with rfl | hc
    · exact hu
    · exact hdigit c (hwritten.2 c hc)
  | braced digits =>
    have hopen : run (scanned stack emitted .code)
          (['\\', 'u'] ++ '\x7b' :: (digits ++ '\x7d' :: rest)) =
        run (scanned (.brace :: stack) ('\x7b' :: 'u' :: '\\' :: emitted) .code)
          (digits ++ '\x7d' :: rest) := by
      rw [run_plain (by simp [hback, hu]), run_openBrace]
      rfl
    have hdigits := fun c hc => hdigit c (hwritten.2 c hc)
    rw [show (IdentifierPart.braced digits).text ++ rest =
        ['\\', 'u'] ++ '\x7b' :: (digits ++ '\x7d' :: rest) by simp [IdentifierPart.text],
      hopen, run_plain hdigits, run_closeBrace (by simp)]
    simp [IdentifierPart.text]

theorem run_identifier {parts : List IdentifierPart}
    (hpart : ∀ p ∈ parts, A.identPart p.value = true) (hwritten : ∀ p ∈ parts, p.Written) :
    run (scanned stack emitted .code) (parts.flatMap IdentifierPart.text ++ rest) =
      run (scanned stack ((parts.flatMap IdentifierPart.text).reverse ++ emitted) .code) rest := by
  induction parts generalizing emitted with
  | nil => rfl
  | cons p parts ih =>
    rw [List.flatMap_cons, List.append_assoc,
      run_identifierPart (hpart p List.mem_cons_self) (hwritten p List.mem_cons_self),
      ih (fun q hq => hpart q (List.mem_cons_of_mem _ hq))
        (fun q hq => hwritten q (List.mem_cons_of_mem _ hq))]
    simp

theorem isPlain_of_isNumeral (h : IsNumeral c) : IsPlain c := by
  rcases h with h | h
  · exact isPlain_of_isAlphanum h
  · simp only [List.mem_cons, List.not_mem_nil, or_false] at h
    rcases h with rfl | rfl | rfl | rfl <;> decide

/-! ## Elements -/

namespace Element

/-- What the mask leaves of an element. -/
def masked : Element → List Char
  | lineComment body => (lineComment body).text.map blank
  | blockComment body => (blockComment body).text.map blank
  | string quote body => quote :: body.map blank ++ [quote]
  | regex body flags => '/' :: body.map blank ++ '/' :: flags
  | template resumes body opens =>
    templateStart resumes :: body.map blank ++ templateEnd opens
  | e => e.text

/-- What the mask emits for an element, perhaps inside a comment to the end of the line. -/
def shown (comment : Bool) (e : Element) : List Char :=
  if comment then e.text.map blank else e.masked

/-- The mask ends comments at line feeds only, so that they may be open after other line ends. -/
def commentAfter (comment : Bool) : Element → Bool
  | lineComment _ => true
  | terminator c => comment && c != '\n'
  | _ => comment

/-- The mask takes a slash for what it is: see `regexAllowed`. -/
def SlashTaken (emitted : List Char) : Element → Prop
  | punctuator mark => mark ∈ ["/", "/="] → regexAllowed emitted = false
  | regex _ _ => regexAllowed emitted = true
  | _ => True

/-- White space, line ends and comments to the end of the line. -/
def isBlankLine : Element → Bool
  | white _ | terminator _ | lineComment _ => true
  | _ => false

end Element

/-- Where the mask is between two elements: in code, or still in a comment. -/
def codeMode (comment : Bool) : Mode :=
  if comment then .lineComment else .code

theorem punctuator_cases {mark : String} (h : mark ∈ punctuators) :
    mark = "\x7b" ∨ mark = "\x7d" ∨ mark = "/" ∨ mark = "/=" ∨ ∀ c ∈ mark.toList, IsPlain c := by
  have hall : ∀ mark ∈ punctuators, mark = "\x7b" ∨ mark = "\x7d" ∨ mark = "/" ∨ mark = "/=" ∨
      (mark.toList.all fun c => decide (IsPlain c)) = true := by
    decide
  simpa using hall mark h

/-- A division, perhaps with an equals sign after the slash. -/
theorem run_division {s : List Char} (hs : ∀ c ∈ s, IsPlain c)
    (hnext : ∀ c ∈ (s ++ rest).head?, c ≠ '/' ∧ c ≠ '*')
    (hdivision : regexAllowed emitted = false) :
    run (scanned stack emitted .code) ('/' :: (s ++ rest)) =
      run (scanned stack (s.reverse ++ '/' :: emitted) .code) rest := by
  have hslash : (s ++ rest).head? ≠ some '/' := fun h => (hnext '/' h).1 rfl
  have hstar : (s ++ rest).head? ≠ some '*' := fun h => (hnext '*' h).2 rfl
  have hstep : step (scanned stack emitted .code) '/' (s ++ rest).head? =
      .ok (scanned stack ('/' :: emitted) .code) := by
    simp only [step, scanned, stepCode, hslash, hstar, hdivision, State.keep]
    rfl
  rw [run_cons hstep, run_plain hs]

theorem run_punctuator {mark : String} (hvalid : mark ∈ punctuators)
    (hfits : (Element.punctuator mark).Fits stack)
    (hends : (Element.punctuator mark).Ends A rest.head?)
    (hslash : (Element.punctuator mark).SlashTaken emitted) :
    run (scanned stack emitted .code) (mark.toList ++ rest) =
      run (scanned ((Element.punctuator mark).nest stack) (mark.toList.reverse ++ emitted) .code)
        rest := by
  rcases punctuator_cases hvalid with rfl | rfl | rfl | rfl | hplain
  · exact run_openBrace
  · exact run_closeBrace (hfits rfl)
  · exact run_division (s := []) (by simp) (hends rfl) (hslash (by simp))
  · exact run_division (s := ['=']) (by simp [IsPlain]) (by simp) (hslash (by simp))
  · have hopen : mark ≠ "\x7b" := by
      rintro rfl
      exact absurd (hplain '\x7b' (by decide)) (by decide)
    have hclose : mark ≠ "\x7d" := by
      rintro rfl
      exact absurd (hplain '\x7d' (by decide)) (by decide)
    rw [run_plain hplain, Element.nest, if_neg hopen, if_neg hclose]

/-- Inside a comment, elements become blanks. -/
theorem run_inComment {e : Element} (hvalid : e.Valid A) (hblank : e.isBlankLine = true) :
    run (scanned stack emitted (codeMode true)) (e.text ++ rest) =
      run (scanned (e.nest stack) ((e.text.map blank).reverse ++ emitted)
        (codeMode (e.commentAfter true))) rest := by
  cases e with
  | white c =>
    have hfeed : '\n' ∉ [c] := by
      rw [List.mem_singleton]
      rintro rfl
      have hmem : '\n' ∈ whiteSpace := hvalid
      exact absurd hmem (by decide)
    exact run_lineComment hfeed
  | terminator c =>
    by_cases hc : c = '\n'
    · subst hc
      exact run_cons rfl
    · have hmode : (Element.terminator c).commentAfter true = true := by
        simp [Element.commentAfter, hc]
      rw [hmode]
      exact run_lineComment (by simpa [Element.text] using Ne.symm hc)
  | lineComment body =>
    refine run_lineComment ?_
    have hbody : '\n' ∉ body := fun hmem => hvalid '\n' hmem (by decide)
    simpa [Element.text] using hbody
  | blockComment | identifier | number | string | regex | punctuator | template => cases hblank

theorem run_inCode {e : Element} (hvalid : e.Valid A) (hfits : e.Fits stack)
    (hends : e.Ends A rest.head?) (hslash : e.SlashTaken emitted) :
    run (scanned stack emitted (codeMode false)) (e.text ++ rest) =
        run (scanned (e.nest stack) (e.masked.reverse ++ emitted)
          (codeMode (e.commentAfter false))) rest ∨
      ∃ what, run (scanned stack emitted (codeMode false)) (e.text ++ rest) = .error what := by
  have hwhite : ∀ c ∈ whiteSpace ++ lineTerminators, IsPlain c := by
    simp [whiteSpace, lineTerminators, IsPlain]
  cases e with
  | white c =>
    have hc := hwhite c (List.mem_append_left _ hvalid)
    exact .inl (run_plain (by simpa [Element.text] using hc))
  | terminator c =>
    have hc := hwhite c (List.mem_append_right _ hvalid)
    exact .inl (run_plain (by simpa [Element.text] using hc))
  | lineComment body =>
    have hbody : '\n' ∉ '/' :: body := by
      have : '\n' ∉ body := fun hmem => hvalid '\n' hmem (by decide)
      simpa using this
    have hstart : run (scanned stack emitted .code) ('/' :: ('/' :: body ++ rest)) =
        run (scanned stack (' ' :: emitted) .lineComment) ('/' :: body ++ rest) :=
      run_cons rfl
    left
    show run (scanned stack emitted .code) ('/' :: ('/' :: body ++ rest)) = _
    rw [hstart, run_lineComment hbody]
    simp [Element.masked, Element.text, Element.nest, Element.commentAfter, codeMode, blank]
  | blockComment body =>
    have hstart : run (scanned stack emitted .code) ('/' :: '*' :: (body ++ '*' :: '/' :: rest)) =
        run (scanned stack (' ' :: ' ' :: emitted) .block) (body ++ '*' :: '/' :: rest) := by
      rw [run_cons (t := scanned stack (' ' :: emitted) .blockOpening) rfl]
      exact run_cons rfl
    left
    rw [show (Element.blockComment body).text ++ rest =
        '/' :: '*' :: (body ++ '*' :: '/' :: rest) by simp [Element.text]]
    show run (scanned stack emitted .code) _ = _
    rw [hstart, run_block hvalid]
    simp [Element.masked, Element.text, Element.nest, Element.commentAfter, codeMode, blank]
  | identifier parts => exact .inl (run_identifier hvalid.part hvalid.written)
  | number literal =>
    exact .inl (run_plain fun c hc => isPlain_of_isNumeral (NumericLiteral.isNumeral hvalid c hc))
  | string quote body =>
    obtain ⟨hquote, hbody⟩ := hvalid
    have hstart : run (scanned stack emitted .code) (quote :: (body ++ quote :: rest)) =
        run (scanned stack (quote :: emitted) (.quoted quote)) (body ++ quote :: rest) := by
      refine run_cons ?_
      rcases List.mem_pair.mp hquote with rfl | rfl <;> rfl
    have hplain : quote ≠ '\\' ∧ quote ≠ '\n' := by
      rcases List.mem_pair.mp hquote with rfl | rfl <;> decide
    rw [show (Element.string quote body).text ++ rest = quote :: (body ++ quote :: rest) by
      simp [Element.text]]
    show run (scanned stack emitted .code) _ = _ ∨ _
    have hquoted := @run_quoted stack (quote :: emitted) rest _ _ hplain hbody
    rw [← hstart] at hquoted
    simpa [Element.masked, Element.nest, Element.commentAfter, codeMode] using hquoted
  | regex body flags =>
    obtain ⟨hbody, hne, hstar, hflags⟩ := hvalid
    -- What comes after the first slash makes it no comment.
    have hnostar : (body ++ '/' :: (flags ++ rest)).head? ≠ some '*' := by
      cases body with
      | nil => exact absurd rfl hne
      | cons d body => exact hstar
    have hnoslash : (body ++ '/' :: (flags ++ rest)).head? ≠ some '/' := by
      cases hbody with
      | nil => exact absurd rfl hne
      | char _ _ hfirst _ _ => simpa using hfirst
      | escape _ _ | bracketed _ _ => simp
    have hstart : run (scanned stack emitted .code) ('/' :: (body ++ '/' :: (flags ++ rest))) =
        run (scanned stack ('/' :: emitted) (.regex false)) (body ++ '/' :: (flags ++ rest)) := by
      refine run_cons ?_
      have hallowed : regexAllowed emitted = true := hslash
      simp only [step, scanned, stepCode, hnostar, hnoslash, hallowed, State.keep]
      rfl
    left
    rw [show (Element.regex body flags).text ++ rest = '/' :: (body ++ '/' :: (flags ++ rest)) by
      simp [Element.text]]
    show run (scanned stack emitted .code) _ = _
    rw [hstart, run_regex hbody, run_plain fun c hc => isPlain_of_identPart (hflags c hc)]
    simp [Element.masked, Element.nest, Element.commentAfter, codeMode]
  | punctuator mark => exact .inl (run_punctuator hvalid hfits hends hslash)
  | template resumes body opens =>
    left
    show run (scanned stack emitted .code) _ = _
    cases resumes with
    | false =>
      have hstart : run (scanned stack emitted .code)
            ('\x60' :: (body ++ templateEnd opens ++ rest)) =
          run (scanned stack ('\x60' :: emitted) .template)
            (body ++ templateEnd opens ++ rest) :=
        run_cons rfl
      show run _ ('\x60' :: (body ++ templateEnd opens ++ rest)) = _
      rw [hstart, run_template hvalid]
      cases opens <;>
        simp [Element.masked, Element.nest, Element.commentAfter, codeMode, templateStart,
          templateEnd]
    | true =>
      -- The brace closes the innermost expression.
      obtain ⟨outer, rfl⟩ := List.head?_eq_some_iff.mp (hfits rfl)
      show run _ ('\x7d' :: (body ++ templateEnd opens ++ rest)) = _
      rw [run_resume, run_template hvalid]
      cases opens <;>
        simp [Element.masked, Element.nest, Element.commentAfter, codeMode, templateStart,
          templateEnd]

/-- An element is read, inside a comment or outside. -/
theorem run_element {e : Element} {comment : Bool} (hvalid : e.Valid A) (hfits : e.Fits stack)
    (hends : e.Ends A rest.head?) (hslash : e.SlashTaken emitted)
    (hblank : comment = true → e.isBlankLine = true) :
    run (scanned stack emitted (codeMode comment)) (e.text ++ rest) =
        run (scanned (e.nest stack) ((e.shown comment).reverse ++ emitted)
          (codeMode (e.commentAfter comment))) rest ∨
      ∃ what, run (scanned stack emitted (codeMode comment)) (e.text ++ rest) = .error what := by
  cases comment with
  | false => exact run_inCode hvalid hfits hends hslash
  | true => exact .inl (run_inComment hvalid (hblank rfl))

end SceneCompiler.Script
