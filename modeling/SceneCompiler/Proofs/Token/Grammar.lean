import Mathlib
import SceneCompiler.Proofs.Token.Identifier
/-!
# The grammar of token expressions

Which texts are token expressions, and what they say, stated apart from the reader. A reference has
a fallback in which every parenthesis has its partner, so the parenthesis that ends the reference is
the first one without a partner. References may stand in the fallbacks of others, to any depth.

* `Balanced`, `Denotes`: the grammar.
* `takeBalanced?_eq_some_iff`: the reader stops at the first parenthesis without a partner.
* `parse?_eq_some_iff`: the reader takes just the texts of the grammar.
* `parse?_around`: an expression in the fallback of a reference is read back.
-/

namespace SceneCompiler.TokenExpression

/-! ## Definitions -/

/-- Every parenthesis has its partner. -/
inductive Balanced : List Char → Prop where
  | nil : Balanced []
  | char {c : Char} {s : List Char} (opens : c ≠ '(') (closes : c ≠ ')') (rest : Balanced s) :
      Balanced (c :: s)
  | group {inner s : List Char} (inside : Balanced inner) (rest : Balanced s) :
      Balanced ('(' :: (inner ++ ')' :: s))

/-- The fallback that a text stands for: none if it has nothing but white space. -/
def fallbackOf (s : List Char) : Option String :=
  if trimChars s = [] then none else some (String.ofList (trimChars s))

/-- What stands between the name of a reference and its closing parenthesis. -/
def argumentText : Option (List Char) → List Char
  | none => []
  | some fallback => ',' :: fallback

/-- The signs of which one may stand in front of a name. -/
def sigils : List (List Char) :=
  ["--".toList, "$".toList, "@".toList]

/-- What a text says as an expression. -/
inductive Denotes : List Char → TokenExpression → Prop where
  /-- `var(--name)` or `var(--name, fallback)`, with blanks in front of the dashes and behind the
  name. -/
  | reference {opening name blanks : List Char} {argument : Option (List Char)}
      (hopening : IsOpening opening) (hname : IsName name)
      (hblanks : ∀ c ∈ blanks, isBlank c = true) (hbalanced : ∀ f ∈ argument, Balanced f) :
      Denotes (opening ++ (name ++ (blanks ++ (argumentText argument ++ [')']))))
        ⟨String.ofList name, argument.bind fallbackOf⟩
  /-- A name behind a sigil. -/
  | sigil {sign name : List Char} (hsign : sign ∈ sigils) (hname : IsName name)
      (hplain : ¬ "var(".toList <+: sign ++ name) :
      Denotes (sign ++ name) ⟨String.ofList name, none⟩
  /-- A name that starts with no sigil. -/
  | name {name : List Char} (hname : IsName name) (hbare : ∀ sign ∈ sigils, ¬ sign <+: name)
      (hplain : ¬ "var(".toList <+: name) : Denotes name ⟨String.ofList name, none⟩

/-! ## Parentheses -/

section Parentheses

variable {c : Char} {s t taken rest : List Char} {depth : Nat}

theorem Balanced.append (hs : Balanced s) (ht : Balanced t) : Balanced (s ++ t) := by
  induction hs with
  | nil => exact ht
  | char opens closes _ ih => exact .char opens closes ih
  | group inside _ _ ih =>
    rw [List.cons_append, List.append_assoc, List.cons_append]
    exact .group inside ih

theorem balanced_of_forall (h : ∀ c ∈ s, c ≠ '(' ∧ c ≠ ')') : Balanced s := by
  induction s with
  | nil => exact .nil
  | cons c s ih =>
    obtain ⟨⟨opens, closes⟩, hrest⟩ := List.forall_mem_cons.mp h
    exact .char opens closes (ih hrest)

/-- Neither blanks nor other white space are parentheses. -/
theorem balanced_of_white (h : ∀ c ∈ s, isWhite c = true) : Balanced s :=
  balanced_of_forall fun c hc =>
    ⟨fun heq => absurd (h c hc) (by rw [heq]; decide),
      fun heq => absurd (h c hc) (by rw [heq]; decide)⟩

theorem Balanced.of_trimChars (h : Balanced (trimChars s)) : Balanced s := by
  have hfront := balanced_of_white fun c hc => List.mem_takeWhile_imp (p := isWhite) (l := s) hc
  have hback := balanced_of_white fun c hc =>
    List.mem_rtakeWhile_imp (p := isWhite) (l := s.dropWhile isWhite) hc
  have hall := hfront.append (h.append hback)
  rwa [takeWhile_append_trimChars] at hall

theorem Balanced.of_cons (h : Balanced (c :: s)) (hc : c ≠ '(') : Balanced s := by
  cases h with
  | char _ _ rest => exact rest
  | group _ _ => exact absurd rfl hc

/-- A text in which all parentheses have their partners is taken as it is, whatever is open around
it. -/
theorem takeBalanced?_append (h : Balanced s) (depth : Nat) (t : List Char) :
    takeBalanced? depth (s ++ t)
      = (takeBalanced? depth t).map fun found => (s ++ found.1, found.2) := by
  induction h generalizing depth t with
  | nil => simp
  | char opens closes _ ih =>
    rw [List.cons_append, takeBalanced?, if_neg fun h => closes h.1]
    simp only [if_neg opens, if_neg closes, ih, Option.map_map]
    rfl
  | group _ _ ihinside ihrest =>
    -- One more parenthesis is open inside, and the partner closes it.
    rw [List.cons_append, List.append_assoc, List.cons_append, takeBalanced?,
      if_neg fun h => absurd h.1 (by decide)]
    simp only [if_true, ihinside]
    rw [takeBalanced?, if_neg fun h => absurd h.2 (Nat.succ_ne_zero depth)]
    simp only [if_neg (show ')' ≠ '(' by decide), if_true, Nat.add_sub_cancel, ihrest,
      Option.map_map]
    congr 1
    funext found
    simp

/-- The text closes parentheses that were open in front of it, as many as `depth` says. -/
def Closes : Nat → List Char → Prop
  | 0, s => Balanced s
  | depth + 1, s => ∃ inner rest, Balanced inner ∧ Closes depth rest ∧ s = inner ++ ')' :: rest

theorem Closes.behind (hs : Balanced s) (ht : Closes depth t) : Closes depth (s ++ t) := by
  cases depth with
  | zero => exact hs.append ht
  | succ depth =>
    obtain ⟨inner, rest, hinner, hrest, rfl⟩ := ht
    exact ⟨s ++ inner, rest, hs.append hinner, hrest, (List.append_assoc _ _ _).symm⟩

theorem closes_of_takeBalanced? (h : takeBalanced? depth s = some (taken, rest)) :
    Closes depth taken ∧ rest.head? = some ')' ∧ s = taken ++ rest := by
  induction s generalizing depth taken with
  | nil => cases h
  | cons c s ih =>
    rw [takeBalanced?] at h
    split at h
    · next hstop =>
      -- The first parenthesis without a partner.
      obtain ⟨rfl, rfl⟩ := hstop
      obtain ⟨rfl, rfl⟩ := Prod.mk.inj (Option.some.inj h)
      exact ⟨.nil, rfl, rfl⟩
    · next hgo =>
      obtain ⟨⟨inner, rest'⟩, hfound, heq⟩ := Option.map_eq_some_iff.mp h
      obtain ⟨rfl, rfl⟩ := Prod.mk.inj heq
      obtain ⟨hcloses, hhead, rfl⟩ := ih hfound
      refine ⟨?_, hhead, rfl⟩
      by_cases hopen : c = '('
      · subst hopen
        obtain ⟨group, behind, hgroup, hbehind, rfl⟩ := hcloses
        have hall := hbehind.behind (.group hgroup .nil)
        simpa using hall
      · by_cases hclose : c = ')'
        · subst hclose
          cases depth with
          | zero => exact absurd ⟨rfl, rfl⟩ hgo
          | succ depth => exact ⟨[], inner, .nil, hcloses, rfl⟩
        · rw [if_neg hopen, if_neg hclose] at hcloses
          exact hcloses.behind (.char hopen hclose .nil)

/-- The reader stops at the first parenthesis without a partner. -/
theorem takeBalanced?_eq_some_iff : takeBalanced? 0 s = some (taken, rest)
    ↔ Balanced taken ∧ rest.head? = some ')' ∧ s = taken ++ rest := by
  refine ⟨closes_of_takeBalanced?, ?_⟩
  rintro ⟨hbalanced, hhead, rfl⟩
  obtain ⟨tail, rfl⟩ := List.head?_eq_some_iff.mp hhead
  rw [takeBalanced?_append hbalanced]
  simp [takeBalanced?]

end Parentheses

/-! ## Reading -/

section Reading

variable {s t rest name : List Char} {e : TokenExpression}

theorem Balanced.dropWhile_isBlank (h : Balanced s) : Balanced (s.dropWhile isBlank) := by
  induction s with
  | nil => exact .nil
  | cons c s ih =>
    rw [List.dropWhile_cons]
    split
    · next hblank =>
      exact ih (h.of_cons fun heq => absurd hblank (by rw [heq]; decide))
    · exact h

/-- What the reader takes between a name and the closing parenthesis. -/
theorem takeFallback_eq_iff {fallback : Option (List Char)} :
    takeFallback s = (fallback, ')' :: rest) ↔ ∃ argument : Option (List Char),
      (∀ f ∈ argument, Balanced f) ∧ s = argumentText argument ++ ')' :: rest
        ∧ fallback = argument.map fun f => f.dropWhile isBlank := by
  -- The closing parenthesis is no blank, so only blanks of the argument are dropped.
  have hdrop (f : List Char) :
      (f ++ ')' :: rest).dropWhile isBlank = f.dropWhile isBlank ++ ')' :: rest :=
    dropWhile_behind (by decide)
  constructor
  · intro h
    unfold takeFallback at h
    split at h
    · next r =>
      split at h
      · next taken rest' htake =>
        obtain ⟨rfl, rfl⟩ := Prod.mk.inj h
        obtain ⟨hbalanced, -, hr⟩ := takeBalanced?_eq_some_iff.mp htake
        have hblanks : Balanced (r.takeWhile isBlank) :=
          balanced_of_white fun _ hc => isWhite_of_isBlank (List.mem_takeWhile_imp hc)
        have hargument : r.takeWhile isBlank ++ taken ++ ')' :: rest = r := by
          rw [List.append_assoc, ← hr, List.takeWhile_append_dropWhile]
        refine ⟨some (r.takeWhile isBlank ++ taken), ?_, ?_, ?_⟩
        · rintro f ⟨⟩
          exact hblanks.append hbalanced
        · rw [argumentText, List.cons_append, hargument]
        · have htaken := hdrop (r.takeWhile isBlank ++ taken)
          rw [hargument, hr] at htaken
          exact congrArg some (List.append_cancel_right htaken)
      · cases (Prod.mk.inj h).2
    · obtain ⟨rfl, rfl⟩ := Prod.mk.inj h
      exact ⟨none, nofun, rfl, rfl⟩
  · rintro ⟨argument, hbalanced, rfl, rfl⟩
    cases argument with
    | none => rfl
    | some f =>
      have htake : takeBalanced? 0 (f.dropWhile isBlank ++ ')' :: rest)
          = some (f.dropWhile isBlank, ')' :: rest) :=
        takeBalanced?_eq_some_iff.mpr ⟨(hbalanced f rfl).dropWhile_isBlank, rfl, rfl⟩
      simp only [argumentText, takeFallback, List.cons_append, hdrop, htake, Option.map_some]

/-- The fallback that is kept: trimmed, and none if nothing is left. -/
theorem fallback_eq (argument : Option (List Char)) :
    (((argument.map fun f => f.dropWhile isBlank).map trimChars).filter (· ≠ [])).map String.ofList
      = argument.bind fallbackOf := by
  cases argument with
  | none => rfl
  | some f =>
    rw [Option.map_some, Option.map_some, trimChars_dropWhile_isBlank, Option.bind_some,
      fallbackOf]
    by_cases hempty : trimChars f = []
    · simp [hempty]
    · simp [hempty]

/-- Neither a comma nor a closing parenthesis goes on with a name or with blanks. -/
theorem head?_argumentText (argument : Option (List Char)) (rest : List Char) :
    ∃ c tail, argumentText argument ++ ')' :: rest = c :: tail
      ∧ isNameChar c = false ∧ isBlank c = false := by
  cases argument with
  | none => exact ⟨')', rest, rfl, by decide, by decide⟩
  | some f => exact ⟨',', f ++ ')' :: rest, rfl, by decide, by decide⟩

/-- What is read as a reference, and what is left. -/
theorem readReference?_eq_some_iff : readReference? s = some (e, rest)
    ↔ ∃ (opening name blanks : List Char) (argument : Option (List Char)),
      IsOpening opening ∧ IsName name ∧ (∀ c ∈ blanks, isBlank c = true)
        ∧ (∀ f ∈ argument, Balanced f)
        ∧ s = opening ++ (name ++ (blanks ++ (argumentText argument ++ ')' :: rest)))
        ∧ e = ⟨String.ofList name, argument.bind fallbackOf⟩ := by
  unfold readReference?
  simp only [Option.bind_eq_bind, Option.bind_eq_some_iff, dropOpening?_eq_some_iff, Prod.exists,
    takeName?_eq_some_iff]
  constructor
  · rintro ⟨body, ⟨opening, hopening, rfl⟩, name, behind, ⟨hname, -, rfl⟩, hread⟩
    cases hfallback : takeFallback (behind.dropWhile isBlank) with
    | mk fallback closing =>
      rw [hfallback] at hread
      dsimp only at hread
      split at hread
      · next rest' hclosing =>
        obtain ⟨rfl, rfl⟩ := Prod.mk.inj (Option.some.inj hread)
        obtain ⟨argument, hbalanced, hbehind, rfl⟩ := takeFallback_eq_iff.mp hfallback
        refine ⟨opening, name, behind.takeWhile isBlank, argument, hopening, hname,
          fun _ hc => List.mem_takeWhile_imp hc, hbalanced, ?_, ?_⟩
        · rw [← hbehind, List.takeWhile_append_dropWhile]
        · rw [fallback_eq]
      · cases hread
  · rintro ⟨opening, name, blanks, argument, hopening, hname, hblanks, hbalanced, rfl, rfl⟩
    obtain ⟨c, tail, hcons, hnamechar, hblank⟩ := head?_argumentText argument rest
    have hdrop : (blanks ++ (argumentText argument ++ ')' :: rest)).dropWhile isBlank
        = argumentText argument ++ ')' :: rest := by
      rw [List.dropWhile_append_of_pos hblanks, hcons,
        List.dropWhile_cons_of_neg (by simp [hblank])]
    -- The name ends at a blank, at the comma or at the closing parenthesis.
    have hends : NameEnds (blanks ++ (argumentText argument ++ ')' :: rest)) := by
      cases blanks with
      | nil => simp [NameEnds, hcons, hnamechar]
      | cons d blanks =>
        have hwhite := isWhite_of_isBlank (hblanks d List.mem_cons_self)
        have hd : isNameChar d = false := Bool.eq_false_iff.mpr fun hname => by
          rw [not_isWhite_of_isNameChar hname] at hwhite
          cases hwhite
        simp [NameEnds, hd]
    refine ⟨_, ⟨opening, hopening, rfl⟩, name, _, ⟨hname, hends, rfl⟩, ?_⟩
    rw [hdrop, takeFallback_eq_iff.mpr ⟨argument, hbalanced, rfl, rfl⟩]
    simp only [fallback_eq, Option.pure_def]

/-- A sigil is dropped whenever the text starts with one. -/
theorem dropSigil_eq_iff : dropSigil s = t
    ↔ (∃ sign ∈ sigils, s = sign ++ t) ∨ (∀ sign ∈ sigils, ¬ sign <+: s) ∧ s = t := by
  unfold dropSigil
  split
  case h_4 _ hdashes hdollar hat =>
    have hbare : ∀ sign ∈ sigils, ¬ sign <+: s := by
      simp only [sigils, List.forall_mem_cons, List.not_mem_nil, false_imp_iff, implies_true,
        and_true]
      exact ⟨fun ⟨r, hr⟩ => hdashes r hr.symm, fun ⟨r, hr⟩ => hdollar r hr.symm,
        fun ⟨r, hr⟩ => hat r hr.symm⟩
    constructor
    · exact fun h => Or.inr ⟨hbare, h⟩
    · rintro (⟨sign, hsign, rfl⟩ | ⟨-, h⟩)
      · exact absurd (List.prefix_append sign t) (hbare sign hsign)
      · exact h
  all_goals simp [sigils, eq_comm]

/-- What is read as a name behind a sigil or without one. -/
theorem readName?_eq_some_iff : readName? s = some (e, [])
    ↔ ∃ name, IsName name ∧ e = ⟨String.ofList name, none⟩
      ∧ ((∃ sign ∈ sigils, s = sign ++ name) ∨ (∀ sign ∈ sigils, ¬ sign <+: s) ∧ s = name) := by
  unfold readName?
  rw [Option.map_eq_some_iff]
  constructor
  · rintro ⟨⟨name, behind⟩, htake, hmade⟩
    obtain ⟨rfl, rfl⟩ := Prod.mk.inj hmade
    obtain ⟨hname, -, hdrop⟩ := takeName?_eq_some_iff.mp htake
    rw [List.append_nil] at hdrop
    exact ⟨name, hname, rfl, dropSigil_eq_iff.mp hdrop⟩
  · rintro ⟨name, hname, rfl, hsigil⟩
    refine ⟨(name, []), takeName?_eq_some_iff.mpr ⟨hname, rfl, ?_⟩, rfl⟩
    rw [List.append_nil]
    exact dropSigil_eq_iff.mpr hsigil

/-- The reader takes just the texts of the grammar, without the white space around them. -/
theorem parse?_eq_some_iff {text : String} :
    parse? text = some e ↔ Denotes (trimChars text.toList) e := by
  have hwhole : parse? text = some e
      ↔ (if "var(".toList.isPrefixOf (trimChars text.toList)
          then readReference? (trimChars text.toList) else readName? (trimChars text.toList))
        = some (e, []) := by
    unfold parse?
    dsimp only
    constructor
    · intro h
      split at h
      · next found hread => rw [hread, Option.some.inj h]
      · cases h
    · intro h
      rw [h]
  rw [hwhole]
  generalize trimChars text.toList = t
  constructor
  · intro h
    split at h
    · obtain ⟨opening, name, blanks, argument, hopening, hname, hblanks, hbalanced, rfl, rfl⟩ :=
        readReference?_eq_some_iff.mp h
      exact .reference hopening hname hblanks hbalanced
    · next hplain =>
      rw [List.isPrefixOf_iff_prefix] at hplain
      obtain ⟨name, hname, rfl, hsigil⟩ := readName?_eq_some_iff.mp h
      rcases hsigil with ⟨sign, hsign, rfl⟩ | ⟨hbare, rfl⟩
      · exact .sigil hsign hname hplain
      · exact .name hname hbare hplain
  · intro h
    cases h with
    | @reference opening name blanks argument hopening hname hblanks hbalanced =>
      rw [if_pos ?_]
      · exact readReference?_eq_some_iff.mpr ⟨opening, name, blanks, argument, hopening, hname,
          hblanks, hbalanced, rfl, rfl⟩
      · obtain ⟨inner, -, rfl⟩ := hopening
        rw [List.isPrefixOf_iff_prefix, List.append_assoc]
        exact List.prefix_append _ _
    | @sigil sign name hsign hname hplain =>
      rw [if_neg (mt List.isPrefixOf_iff_prefix.mp hplain)]
      exact readName?_eq_some_iff.mpr ⟨name, hname, rfl, Or.inl ⟨sign, hsign, rfl⟩⟩
    | name hname hbare hplain =>
      rw [if_neg (mt List.isPrefixOf_iff_prefix.mp hplain)]
      exact readName?_eq_some_iff.mpr ⟨t, hname, rfl, Or.inr ⟨hbare, rfl⟩⟩

theorem Denotes.isName (h : Denotes s e) : IsName e.name.toList := by
  cases h with
  | reference _ hname _ _ => rwa [String.toList_ofList]
  | sigil _ hname _ => rwa [String.toList_ofList]
  | name hname _ _ => rwa [String.toList_ofList]

/-- What a text that is read as an expression has for its name. -/
theorem isName_of_parse? {text : String} (h : parse? text = some e) : IsName e.name.toList :=
  (parse?_eq_some_iff.mp h).isName

end Reading

/-! ## References around expressions -/

/-- A reference up to its comma. -/
structure ReferenceFrame where
  opening : List Char
  name : List Char
  blanks : List Char
  isOpening : IsOpening opening
  isName : IsName name
  areBlank : ∀ c ∈ blanks, isBlank c = true

/-- The reference with a text for its fallback. -/
def ReferenceFrame.around (frame : ReferenceFrame) (inner : String) : String :=
  String.ofList (frame.opening ++ (frame.name ++ (frame.blanks ++ (',' :: inner.toList ++ [')']))))

/-- References in the fallbacks of each other, the first one outermost, around a text. -/
def nest (frames : List ReferenceFrame) (inner : String) : String :=
  frames.foldr ReferenceFrame.around inner

/-- The expression that a text is read as, or, further in, what its fallback is read as. -/
def readWithin? : Nat → String → Option TokenExpression
  | 0, text => parse? text
  | depth + 1, text => (parse? text).bind fun e => e.fallback.bind (readWithin? depth)

section Nesting

variable {s : List Char} {e : TokenExpression} {inner : String}

theorem IsName.balanced (h : IsName s) : Balanced s :=
  balanced_of_forall fun c hc =>
    ⟨fun heq => absurd (h.isNameChar c hc) (by rw [heq]; decide),
      fun heq => absurd (h.isNameChar c hc) (by rw [heq]; decide)⟩

theorem balanced_of_blank (h : ∀ c ∈ s, isBlank c = true) : Balanced s :=
  balanced_of_white fun c hc => isWhite_of_isBlank (h c hc)

/-- The parenthesis of a reference is closed by the last character. -/
theorem balanced_reference {opening : List Char} (hopening : IsOpening opening)
    (hs : Balanced s) : Balanced (opening ++ (s ++ [')'])) := by
  obtain ⟨blanks, hblanks, rfl⟩ := hopening
  have hdashes : Balanced "--".toList := .char (by decide) (by decide)
    (.char (by decide) (by decide) .nil)
  have hgroup := Balanced.group ((balanced_of_blank hblanks).append (hdashes.append hs)) .nil
  have hall := Balanced.char (c := 'v') (by decide) (by decide)
    (.char (c := 'a') (by decide) (by decide) (.char (c := 'r') (by decide) (by decide) hgroup))
  simpa using hall

theorem Denotes.balanced (h : Denotes s e) : Balanced s := by
  cases h with
  | @reference opening name blanks argument hopening hname hblanks hbalanced =>
    have hargument : Balanced (argumentText argument) := by
      cases argument with
      | none => exact .nil
      | some f => exact .char (by decide) (by decide) (hbalanced f rfl)
    have hinside := hname.balanced.append ((balanced_of_blank hblanks).append hargument)
    have hall := balanced_reference hopening hinside
    simpa only [List.append_assoc] using hall
  | @sigil sign name hsign hname _ =>
    have hbalanced : Balanced sign := by
      simp only [sigils, List.mem_cons, List.not_mem_nil, or_false] at hsign
      rcases hsign with rfl | rfl | rfl
      · exact .char (by decide) (by decide) (.char (by decide) (by decide) .nil)
      · exact .char (by decide) (by decide) .nil
      · exact .char (by decide) (by decide) .nil
    exact hbalanced.append hname.balanced
  | name hname _ _ => exact hname.balanced

theorem Denotes.ne_nil (h : Denotes s e) : s ≠ [] := by
  cases h with
  | reference _ _ _ _ => simp
  | sigil _ hname _ => exact List.append_ne_nil_of_right_ne_nil _ hname.ne_nil
  | name hname _ _ => exact hname.ne_nil

theorem parse?_trimText (text : String) : parse? (trimText text) = parse? text := by
  unfold parse? trimText
  rw [String.toList_ofList, trimChars_idem]

theorem readWithin?_trimText (depth : Nat) (text : String) :
    readWithin? depth (trimText text) = readWithin? depth text := by
  cases depth with
  | zero => exact parse?_trimText text
  | succ depth => rw [readWithin?, readWithin?, parse?_trimText]

/-- An expression in the fallback of a reference is read back. -/
theorem parse?_around (frame : ReferenceFrame) (h : parse? inner = some e) :
    parse? (frame.around inner) = some ⟨String.ofList frame.name, some (trimText inner)⟩ := by
  have hinner := parse?_eq_some_iff.mp h
  have hfallback : fallbackOf inner.toList = some (trimText inner) := by
    rw [fallbackOf, if_neg hinner.ne_nil, trimText]
  have htrim : trimChars (frame.around inner).toList = (frame.around inner).toList := by
    obtain ⟨blanks, -, hopening⟩ := frame.isOpening
    have hlast : (frame.around inner).toList
        = (frame.opening ++ (frame.name ++ (frame.blanks ++ ',' :: inner.toList))) ++ [')'] := by
      simp [ReferenceFrame.around]
    rw [hlast]
    refine trimChars_of_ends ?_ ?_
    · rw [hopening]
      rfl
    · rw [List.getLast?_concat]
      decide
  have hbalanced : ∀ f ∈ some inner.toList, Balanced f :=
    fun f hf => Option.some.inj hf ▸ hinner.balanced.of_trimChars
  rw [parse?_eq_some_iff, htrim, ReferenceFrame.around, String.toList_ofList, ← hfallback]
  exact Denotes.reference frame.isOpening frame.isName frame.areBlank hbalanced

theorem exists_parse?_nest (frames : List ReferenceFrame) (h : parse? inner = some e) :
    ∃ e', parse? (nest frames inner) = some e' := by
  induction frames with
  | nil => exact ⟨e, h⟩
  | cons frame frames ih =>
    obtain ⟨e', he'⟩ := ih
    exact ⟨_, parse?_around frame he'⟩

theorem readWithin?_succ_nest (frame : ReferenceFrame) (frames : List ReferenceFrame)
    (h : parse? inner = some e) (depth : Nat) :
    readWithin? (depth + 1) (nest (frame :: frames) inner)
      = readWithin? depth (nest frames inner) := by
  obtain ⟨e', he'⟩ := exists_parse?_nest frames h
  rw [readWithin?, nest, List.foldr_cons, ← nest, parse?_around frame he', Option.bind_some,
    Option.bind_some, readWithin?_trimText]

/-- At the depth of each reference its name is read, with all that is further in for its fallback,
and behind the last one the expression in the middle. -/
theorem readWithin?_nest (frames : List ReferenceFrame) (h : parse? inner = some e) :
    readWithin? frames.length (nest frames inner) = some e
      ∧ ∀ depth frame, frames[depth]? = some frame →
        readWithin? depth (nest frames inner)
          = some ⟨String.ofList frame.name, some (trimText (nest (frames.drop (depth + 1)) inner))⟩ := by
  induction frames with
  | nil => exact ⟨h, nofun⟩
  | cons frame frames ih =>
    obtain ⟨hmiddle, hframes⟩ := ih
    refine ⟨?_, fun depth other hother => ?_⟩
    · rw [List.length_cons, readWithin?_succ_nest frame frames h, hmiddle]
    · cases depth with
      | zero =>
        obtain rfl := Option.some.inj hother
        obtain ⟨e', he'⟩ := exists_parse?_nest frames h
        exact parse?_around frame he'
      | succ depth =>
        rw [readWithin?_succ_nest frame frames h, List.drop_succ_cons]
        exact hframes depth other hother

/-- The reader takes just the texts of the grammar, and it reads references in the fallbacks of each
other back, at any depth, down to the expression in the middle. -/
theorem parse?_grammar :
    (∀ (text : String) (e : TokenExpression),
        parse? text = some e ↔ Denotes (trimChars text.toList) e)
      ∧ ∀ (frames : List ReferenceFrame) (inner : String) (e : TokenExpression),
        parse? inner = some e →
          readWithin? frames.length (nest frames inner) = some e
            ∧ ∀ depth frame, frames[depth]? = some frame →
              readWithin? depth (nest frames inner) = some ⟨String.ofList frame.name,
                some (trimText (nest (frames.drop (depth + 1)) inner))⟩ :=
  ⟨fun _ _ => parse?_eq_some_iff, fun frames _ _ h => readWithin?_nest frames h⟩

/-- A reference without blanks, and one with blanks on both sides of its name. -/
def gapFrame : ReferenceFrame where
  opening := "var(--".toList
  name := "gap".toList
  blanks := []
  isOpening := isOpening_plain
  isName := ⟨'g', "ap".toList, rfl, by decide, List.all_eq_true.mp (by decide)⟩
  areBlank := nofun

def spacedFrame : ReferenceFrame where
  opening := "var( \t--".toList
  name := "-space.2".toList
  blanks := [' ']
  isOpening := ⟨" \t".toList, List.all_eq_true.mp (by decide), rfl⟩
  isName := ⟨'-', "space.2".toList, rfl, by decide, List.all_eq_true.mp (by decide)⟩
  areBlank := List.all_eq_true.mp (by decide)

theorem parse?_grammar_gap :
    nest [gapFrame, spacedFrame] " $base " = "var(--gap,var( \t---space.2 , $base ))"
      ∧ parse? " $base " = some ⟨"base", none⟩
      ∧ readWithin? 2 (nest [gapFrame, spacedFrame] " $base ") = some ⟨"base", none⟩ := by
  have hbase : parse? " $base " = some ⟨"base", none⟩ := by decide
  exact ⟨by decide, hbase, (parse?_grammar.2 [gapFrame, spacedFrame] " $base " _ hbase).1⟩

end Nesting

end SceneCompiler.TokenExpression
