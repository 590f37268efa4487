import Mathlib
import SceneCompiler.Proofs.Plugin.Contents
import SceneCompiler.Proofs.Text.Spans
/-!
# Code inside of templates

The expressions in templates are code, and they are checked as if they stood alone. While the mask
is in such an expression, the expressions around it lie at the bottom of its stack, and the braces
that are open outside are counted in its depth. Code that closes only the braces that it has opened
never sees either: the mask runs over it in step with a mask that runs over it alone.

* `State.inside`: a state inside of an expression, from the state of the mask of the code alone.
* `step_inside`, `run_inside`: a step and a run inside and alone.
* `run_templateAround`: the mask over a template around code.
* `checkSource_nested`: the check of code inside of any templates.
-/

namespace SceneCompiler

open Mask (IsEdge)

/-! ## Texts behind an edge -/

section Behind

variable {x y : List Char} {d : Char}

/-- What was emitted before an opening brace does not matter for slashes: they are taken as at the
start of a source. -/
theorem Mask.regexAllowed_behind (x y : List Char) :
    regexAllowed (x ++ '\x7b' :: y) = regexAllowed x := by
  unfold regexAllowed
  rw [dropWhile_behind (by decide)]
  cases x.dropWhile isWhite with
  | nil => rfl
  | cons c code =>
    have hword : (c :: (code ++ '\x7b' :: y)).takeWhile isScriptIdentChar =
        (c :: code).takeWhile isScriptIdentChar :=
      takeWhile_behind (x := c :: code) (by decide)
    simp only [List.cons_append, hword]

namespace ScriptIdentifier

/-- Nor does it matter for points. -/
theorem isMember_behind (hd : IsEdge d) (hwhite : isWhite d = false) (name : List Char) :
    isMember ⟨x ++ d :: y, name⟩ = isMember ⟨x, name⟩ := by
  have hpoints : ((x ++ d :: y).dropWhile isWhite).takeWhile (· == '.') =
      (x.dropWhile isWhite).takeWhile (· == '.') := by
    rw [dropWhile_behind hwhite, takeWhile_behind (by simp [hd.2])]
  rw [Bool.eq_iff_iff, isMember_iff, isMember_iff]
  dsimp only
  rw [hpoints]

theorem map_mention_ofWord_behind (hd : IsEdge d) (hwhite : isWhite d = false) (word : List Char) :
    (ofWord (x ++ d :: y) word).map mention = (ofWord x word).map mention := by
  unfold ofWord
  split
  · rfl
  · split
    · rfl
    · rw [List.map_singleton, List.map_singleton, mention, mention, isMember_behind hd hwhite]

/-- A text has the same mentions behind an edge and at the start. -/
theorem map_mention_allFrom_behind (hd : IsEdge d) (hwhite : isWhite d = false)
    (word s : List Char) :
    (allFrom (x ++ d :: y) word s).map mention = (allFrom x word s).map mention := by
  induction s generalizing x word with
  | nil => exact map_mention_ofWord_behind hd hwhite word
  | cons c s ih =>
    rw [allFrom, allFrom]
    split
    · exact ih (c :: word)
    · have hrest := ih (x := c :: (word ++ x)) []
      rw [List.cons_append, List.append_assoc] at hrest
      rw [List.map_append, List.map_append, map_mention_ofWord_behind hd hwhite, hrest]

end ScriptIdentifier

end Behind

namespace Mask

/-! ## Code alone and inside of an expression -/

/-- The state inside of an expression that the mask has entered in the state `around`, when it has
run over the same code alone to the state `s`. -/
def State.inside (s around : State) : State where
  mode := s.mode
  templates := s.templates.map (· + (around.depth + 1)) ++ around.depth :: around.templates
  depth := s.depth + (around.depth + 1)
  emitted := s.emitted ++ '\x7b' :: around.emitted

/-- Along a run no brace is closed in code that was not opened. -/
def ClosesOpened (s : State) : List Char → Prop
  | [] => True
  | c :: rest =>
    (s.mode = .code → c = '\x7d' → s.depth ≠ 0) ∧
      ∀ t, step s c rest.head? = .ok t → ClosesOpened t rest

instance decidableClosesOpened :
    (s : State) → (text : List Char) → Decidable (ClosesOpened s text)
  | _, [] => isTrue trivial
  | s, c :: rest =>
    have : Decidable (∀ t, step s c rest.head? = .ok t → ClosesOpened t rest) :=
      match step s c rest.head? with
      | .error _ => isTrue nofun
      | .ok t =>
        have := decidableClosesOpened t rest
        decidable_of_iff (ClosesOpened t rest)
          ⟨fun h _ hu => Except.ok.inj hu ▸ h, fun h => h t rfl⟩
    inferInstanceAs (Decidable (_ ∧ _))

section Inside

variable {s t : State} {c : Char} {next : Option Char} {text rest : List Char}

theorem stepCode_inside (around : State) (hbrace : c = '\x7d' → s.depth ≠ 0) :
    stepCode (s.inside around) c next = (stepCode s c next).inside around := by
  have hregex : regexAllowed (s.inside around).emitted = regexAllowed s.emitted :=
    regexAllowed_behind s.emitted around.emitted
  unfold stepCode
  rw [hregex]
  split_ifs with _ _ _ _ _ hopens hcloses
  any_goals rfl
  · rw [State.inside, State.inside, Nat.add_right_comm]
    rfl
  · -- The expression around closes at its own depth only, which is below all depths inside.
    have hdepth := hbrace hcloses
    obtain ⟨mode, templates, depth, emitted⟩ := s
    dsimp only at hdepth
    have hclosed : depth + (around.depth + 1) - 1 = depth - 1 + (around.depth + 1) := by omega
    rcases templates with _ | ⟨opened, outer⟩
    · have hbelow : around.depth + 1 ≠ depth + (around.depth + 1) := by omega
      simp only [State.inside, List.map_nil, List.nil_append, if_neg hbelow, State.keep, hclosed]
      rfl
    · have hshift : opened + (around.depth + 1) + 1 = depth + (around.depth + 1) ↔
          opened + 1 = depth := by omega
      simp only [State.inside, List.map_cons, List.cons_append, hshift, State.keep, hclosed]
      split_ifs <;> rfl

theorem step_inside (around : State) (hbrace : s.mode = .code → c = '\x7d' → s.depth ≠ 0) :
    step (s.inside around) c next = (step s c next).map (·.inside around) := by
  obtain ⟨mode, templates, depth, emitted⟩ := s
  cases mode with
  | code => exact congrArg Except.ok (stepCode_inside around (hbrace rfl))
  | lineComment | quoted | regex | template =>
    simp only [step, State.inside]
    split_ifs <;> rfl
  | blockOpening | block | blockClosing | escaped => rfl
  | templateOpening =>
    simp only [step, State.inside, State.keep, Nat.add_right_comm depth]
    rfl

/-- A closing brace is no second character of anything, so that it is not missed at the end. -/
theorem step_closing (s : State) (c : Char) : step s c (some '\x7d') = step s c none := by
  unfold step stepCode
  simp

/-- A run inside of an expression, up to a closing brace. -/
theorem run_inside (around : State) (hcloses : ClosesOpened s text) (h : run s text = .ok t)
    (rest : List Char) :
    run (s.inside around) (text ++ '\x7d' :: rest) = run (t.inside around) ('\x7d' :: rest) := by
  -- Only at the last character the brace is seen.
  induction text generalizing s with
  | nil =>
    obtain rfl := Except.ok.inj h
    rfl
  | cons c text ih =>
    obtain ⟨u, hstep, hrun⟩ := exists_step_of_run h
    have hahead : step s c (text ++ '\x7d' :: rest).head? = .ok u := by
      cases text with
      | nil => exact (step_closing s c).trans hstep
      | cons d text => exact hstep
    have hinside : step (s.inside around) c (text ++ '\x7d' :: rest).head? =
        .ok (u.inside around) := by
      rw [step_inside around hcloses.1, hahead]
      rfl
    rw [List.cons_append, run_cons hinside]
    exact ih (hcloses.2 u hstep) hrun

end Inside

/-! ## Code that stands alone -/

section Modes

variable {s t : State} {c : Char} {next : Option Char} {source : List Char}

/-- Only where a backslash escapes, the mask is behind one. -/
def Mode.EscapesWell (mode : Mode) : Prop :=
  ∀ inside, mode = .escaped inside → inside.escapes = true

theorem escapesWell_stepCode (s : State) (c : Char) (next : Option Char) :
    (stepCode s c next).mode.EscapesWell := by
  unfold stepCode
  rcases s.templates with _ | ⟨opened, outer⟩
  all_goals
    dsimp only
    split_ifs
  all_goals exact nofun

theorem escapesWell_step (hs : s.mode.EscapesWell) (h : step s c next = .ok t) :
    t.mode.EscapesWell := by
  obtain ⟨mode, templates, depth, emitted⟩ := s
  cases mode with
  | code =>
    obtain rfl := Except.ok.inj h
    exact escapesWell_stepCode _ c next
  | blockOpening | blockClosing | templateOpening =>
    obtain rfl := Except.ok.inj h
    exact nofun
  | lineComment | block | quoted | regex | template =>
    simp only [step] at h
    split_ifs at h
    all_goals
      cases h
      rintro inside hinside
      cases hinside
    all_goals rfl
  | escaped inside =>
    obtain rfl := Except.ok.inj h
    rintro deeper rfl
    cases hs _ rfl

theorem escapesWell_run (hs : s.mode.EscapesWell) (h : run s source = .ok t) :
    t.mode.EscapesWell := by
  induction source generalizing s with
  | nil =>
    obtain rfl := Except.ok.inj h
    exact hs
  | cons c source ih =>
    obtain ⟨u, hstep, hrun⟩ := exists_step_of_run h
    exact ih (escapesWell_step hs hstep) hrun

/-- A source that is scanned to its end ends in code or in a comment to the end of the line. -/
theorem mode_of_run (h : run {} source = .ok t) (hopen : t.open? = none)
    (hcomment : t.mode ≠ .lineComment) : t.mode = .code := by
  have hescapes : t.mode.EscapesWell := escapesWell_run (by nofun) h
  have hmode := mode_open?_of_open? hopen
  generalize t.mode = mode at *
  cases mode with
  | code => rfl
  | lineComment => exact absurd rfl hcomment
  | escaped inside =>
    have hinside := hescapes inside rfl
    cases inside with
    | quoted | regex | template => cases hmode
    | code | lineComment | blockOpening | block | blockClosing | templateOpening | escaped =>
      cases hinside
  | blockOpening | block | blockClosing | quoted | regex | template | templateOpening =>
    cases hmode

end Modes

/-- Code that can be checked on its own: it is scanned up to its end, which lies outside of comments
and where all braces are closed, and it closes no braces but its own. -/
structure StandsAlone (code : List Char) : Prop where
  accepted : ∃ masked, maskLiterals code = .ok masked
  ends : ∀ t, run {} code = .ok t → t.mode ≠ .lineComment ∧ t.depth = 0
  closes : ClosesOpened {} code

/-- What is emitted for the code, the last character first, alone and inside of an expression. -/
structure Emits (code emitted : List Char) : Prop where
  alone : run {} code = .ok { emitted }
  inside : ∀ (around : State) (rest : List Char),
    run (State.inside {} around) (code ++ '\x7d' :: rest) =
      run (State.inside { emitted } around) ('\x7d' :: rest)

theorem StandsAlone.exists_emits {code : List Char} (h : StandsAlone code) :
    ∃ emitted, Emits code emitted := by
  obtain ⟨masked, haccepted⟩ := h.accepted
  obtain ⟨t, hrun, hopen, -⟩ := maskLiterals_eq_ok_iff.mp haccepted
  obtain ⟨hcomment, hdepth⟩ := h.ends t hrun
  have hmode := mode_of_run hrun hopen hcomment
  obtain ⟨mode, templates, depth, emitted⟩ := t
  dsimp only at hmode hdepth
  subst hmode hdepth
  obtain rfl : templates = [] := by
    cases templates with
    | nil => rfl
    | cons opened outer => cases hopen
  exact ⟨emitted, hrun, fun around => run_inside around h.closes hrun⟩

/-! ## Templates around code -/

/-- A text that stands in a template as it is. -/
structure IsTemplateText (s : List Char) : Prop where
  tick : '\x60' ∉ s
  backslash : '\\' ∉ s
  opening : ¬ ['$', '\x7b'] <:+: s

/-- A template with one expression, between two texts. -/
def templateAround (before after code : List Char) : List Char :=
  '\x60' :: (before ++ '$' :: '\x7b' :: (code ++ '\x7d' :: (after ++ ['\x60'])))

/-- What is emitted for a template, the last character first, by what is emitted for its code. -/
def emittedAround (before after emitted : List Char) : List Char :=
  '\x60' :: ((after.map blank).reverse ++
    '\x7d' :: (emitted ++ '\x7b' :: '$' :: ((before.map blank).reverse ++ ['\x60'])))

section Templates

variable {before after code emitted rest : List Char} {s : State}

theorem IsTemplateText.contents {text : List Char} (h : IsTemplateText text) :
    Contents .chunk .template text := by
  induction text with
  | nil => exact .nil
  | cons c text ih =>
    have htail : IsTemplateText text :=
      ⟨fun hmem => h.tick (List.mem_cons_of_mem _ hmem),
        fun hmem => h.backslash (List.mem_cons_of_mem _ hmem),
        fun hopens => h.opening (hopens.trans (List.suffix_cons c text).isInfix)⟩
    refine .cons (.template ?_ ?_) (ih htail)
    · rw [List.mem_pair]
      rintro (rfl | rfl)
      · exact h.backslash List.mem_cons_self
      · exact h.tick List.mem_cons_self
    · rintro ⟨rfl, hhead⟩
      obtain ⟨tail, rfl⟩ := List.head?_eq_some_iff.mp hhead
      exact h.opening ⟨[], tail, rfl⟩

/-- The mask over a text in a template, of which it emits the blanks. -/
theorem run_templateText {text : List Char} (h : IsTemplateText text) (hmode : s.mode = .template)
    (hrest : rest.head? ≠ some '\x7b') :
    run s (text ++ rest) =
      run { s with emitted := (text.map blank).reverse ++ s.emitted } rest := by
  obtain ⟨mode, templates, depth, shown⟩ := s
  obtain rfl : mode = .template := hmode
  exact run_contents (s := ⟨.template, templates, depth, shown⟩) h.contents (by nofun)
    fun _ => hrest

/-- The mask over a template around code. -/
theorem run_templateAround (hcode : Emits code emitted) (hbefore : IsTemplateText before)
    (hafter : IsTemplateText after) (hmode : s.mode = .code) (rest : List Char) :
    run s (templateAround before after code ++ rest) =
      run { s with emitted := emittedAround before after emitted ++ s.emitted } rest := by
  obtain ⟨mode, templates, depth, shown⟩ := s
  obtain rfl : mode = .code := hmode
  let opened : List Char := '$' :: ((before.map blank).reverse ++ '\x60' :: shown)
  let around : State := ⟨.templateOpening, templates, depth, opened⟩
  have hentered : ∀ emitted, State.inside { emitted } around =
      ⟨.code, depth :: templates, depth + 1, emitted ++ '\x7b' :: opened⟩ := by
    intro emitted
    simp [State.inside, around]
  have htext : templateAround before after code ++ rest =
      '\x60' :: (before ++ '$' :: '\x7b' :: (code ++ '\x7d' :: (after ++ '\x60' :: rest))) := by
    simp [templateAround]
  rw [htext]
  calc run ⟨.code, templates, depth, shown⟩ _
      = run ⟨.template, templates, depth, '\x60' :: shown⟩
          (before ++ '$' :: '\x7b' :: (code ++ '\x7d' :: (after ++ '\x60' :: rest))) := rfl
    _ = run ⟨.template, templates, depth, (before.map blank).reverse ++ '\x60' :: shown⟩
          ('$' :: '\x7b' :: (code ++ '\x7d' :: (after ++ '\x60' :: rest))) :=
        run_templateText hbefore rfl (by simp)
    _ = run ⟨.code, depth :: templates, depth + 1, '\x7b' :: opened⟩
          (code ++ '\x7d' :: (after ++ '\x60' :: rest)) := rfl
    _ = run ⟨.code, depth :: templates, depth + 1, emitted ++ '\x7b' :: opened⟩
          ('\x7d' :: (after ++ '\x60' :: rest)) := by
        have hinside := hcode.inside around (after ++ '\x60' :: rest)
        rwa [hentered, hentered] at hinside
    _ = run ⟨.template, templates, depth, '\x7d' :: (emitted ++ '\x7b' :: opened)⟩
          (after ++ '\x60' :: rest) := run_cons (by simp [step, stepCode, State.keep])
    _ = run ⟨.template, templates, depth, (after.map blank).reverse ++
          '\x7d' :: (emitted ++ '\x7b' :: opened)⟩ ('\x60' :: rest) :=
        run_templateText hafter rfl (by simp)
    _ = run ⟨.code, templates, depth,
          emittedAround before after emitted ++ shown⟩ rest := by
        simp only [emittedAround, opened, List.cons_append, List.append_assoc, List.nil_append]
        rfl

theorem Emits.templateAround (h : Emits code emitted) (hbefore : IsTemplateText before)
    (hafter : IsTemplateText after) :
    Emits (templateAround before after code) (emittedAround before after emitted) := by
  refine ⟨?_, fun around rest => ?_⟩
  · have halone := run_templateAround h hbefore hafter (s := {}) rfl []
    rwa [List.append_nil, List.append_nil] at halone
  · exact run_templateAround h hbefore hafter (s := State.inside {} around) rfl ('\x7d' :: rest)

end Templates

/-! ## The check -/

section Checking

variable {before after code emitted : List Char}

/-- The first word of a masked source that is not allowed, if any. -/
def firstDisallowed? (masked : List Char) : Option (List Char) :=
  ((ScriptIdentifier.all masked).find? (·.isDisallowed)).map (·.name)

open ScriptIdentifier in
/-- A template has no words of its own but the dollar sign. -/
theorem firstDisallowed?_emittedAround (before after emitted : List Char) :
    firstDisallowed? (emittedAround before after emitted).reverse =
      firstDisallowed? emitted.reverse := by
  have hblanks : ∀ (s : List Char), ∀ c ∈ s.map blank, isScriptIdentChar c = false := by
    intro s c hc
    obtain ⟨d, -, rfl⟩ := List.mem_map.mp hc
    exact (isBlank_blank d).1.1
  have hsplit : (emittedAround before after emitted).reverse =
      (('\x60' :: before.map blank) ++ ['$']) ++
        '\x7b' :: (emitted.reverse ++ '\x7d' :: (after.map blank ++ ['\x60'])) := by
    simp [emittedAround]
  -- The words in front of the code: the dollar sign.
  obtain ⟨opening, hopening⟩ : ∃ opening,
      allFrom [] [] (('\x60' :: before.map blank) ++ ['$']) = [⟨opening, ['$']⟩] := by
    rw [allFrom_skip (List.forall_mem_cons.mpr ⟨by decide, hblanks before⟩)]
    exact ⟨_, rfl⟩
  have hdollar : isDisallowed ⟨opening, ['$']⟩ = false := by
    rw [isDisallowed, show disallowedGlobals.contains (String.ofList ['$']) = false from by decide,
      Bool.and_false]
  -- Behind the code there are none.
  have hclosing : ∀ x, allFrom x [] (after.map blank ++ ['\x60']) = [] := by
    intro x
    rw [allFrom_skip (hblanks after)]
    rfl
  have hmentions : ∀ y, (allFrom ('\x7b' :: y) [] emitted.reverse).map mention =
      (allFrom [] [] emitted.reverse).map mention := fun y =>
    map_mention_allFrom_behind (x := []) (by decide) (by decide) [] _
  unfold firstDisallowed? all
  rw [hsplit, allFrom_append (c := '\x7b') (by decide), allFrom_append (c := '\x7d') (by decide),
    hopening, hclosing,
    List.append_nil, List.singleton_append, List.find?_cons_of_neg (by simp [hdollar])]
  exact map_name_find? (hmentions _)

theorem Emits.checkSource_eq (h : Emits code emitted) : checkSource (String.ofList code) =
    (firstDisallowed? emitted.reverse).elim (.ok ())
      fun name => .error (.disallowed (String.ofList name)) :=
  checkSource_of_ok (maskLiterals_eq_ok_iff.mpr ⟨_, h.alone, rfl, rfl⟩)

/-- Code in templates in templates, the outermost one last. -/
def nested (texts : List (List Char × List Char)) (code : List Char) : List Char :=
  texts.foldl (fun inner text => templateAround text.1 text.2 inner) code

/-- At every depth the check of code inside of templates is the check of the code. -/
theorem checkSource_nested (code : List Char) (hcode : StandsAlone code)
    (texts : List (List Char × List Char))
    (htexts : ∀ text ∈ texts, IsTemplateText text.1 ∧ IsTemplateText text.2) :
    checkSource (String.ofList (nested texts code)) = checkSource (String.ofList code) := by
  obtain ⟨emitted, hemits⟩ := hcode.exists_emits
  clear hcode
  -- What one template emits is what the next one has inside.
  induction texts generalizing code emitted with
  | nil => rfl
  | cons text texts ih =>
    obtain ⟨hbefore, hafter⟩ := htexts text List.mem_cons_self
    have hinner := hemits.templateAround hbefore hafter
    have houter := ih _ (fun text htext => htexts text (List.mem_cons_of_mem _ htext)) _ hinner
    rw [nested, List.foldl_cons, ← nested, houter, hinner.checkSource_eq, hemits.checkSource_eq,
      firstDisallowed?_emittedAround]

/-- Two templates around an object with a closing brace in a string and a template of its own. -/
theorem checkSource_nested_twice :
    checkSource (String.ofList (nested [("$".toList, "\x7b".toList), ("a\x7d".toList, [])]
        "\x7bp:'\x7d',q:\x60$\x7bfetch\x7d\x60\x7d".toList)) = .error (.disallowed "fetch") := by
  have haccepted : ∃ masked, maskLiterals "\x7bp:'\x7d',q:\x60$\x7bfetch\x7d\x60\x7d".toList =
      .ok masked := ⟨"\x7bp:' ',q:\x60$\x7bfetch\x7d\x60\x7d".toList, by decide +kernel⟩
  have hrun : run {} "\x7bp:'\x7d',q:\x60$\x7bfetch\x7d\x60\x7d".toList =
      .ok { emitted := "\x7bp:' ',q:\x60$\x7bfetch\x7d\x60\x7d".toList.reverse } := by
    decide +kernel
  have hcode : StandsAlone "\x7bp:'\x7d',q:\x60$\x7bfetch\x7d\x60\x7d".toList := by
    refine ⟨haccepted, fun t ht => ?_, by decide +kernel⟩
    obtain rfl := Except.ok.inj (hrun.symm.trans ht)
    exact ⟨nofun, rfl⟩
  have htexts : ∀ text ∈ [("$".toList, "\x7b".toList), ("a\x7d".toList, [])],
      IsTemplateText text.1 ∧ IsTemplateText text.2 := by
    rintro text htext
    rcases List.mem_pair.mp htext with rfl | rfl
    · exact ⟨⟨by decide, by decide, by decide⟩, by decide, by decide, by decide⟩
    · exact ⟨⟨by decide, by decide, by decide⟩, by decide, by decide, by decide⟩
  exact (checkSource_nested _ hcode _ htexts).trans (by decide +kernel)

end Checking

end Mask

end SceneCompiler
