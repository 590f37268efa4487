import Mathlib
import SceneCompiler.Proofs.Text.Spans
import SceneCompiler.Token.Name
/-!
# Names of tokens as identifiers

What a scanner takes for the name of a token, and which of these names normalizing leads to.

* `referenceStart?_eq_some_iff`: where the scanner finds a reference, and which name it finds there.
* `parse?_of_isName`: a name that starts with no dash is read as itself.
* `normalizeName_idem`: a normalized name is its own normalized form.
* `isName_normalizeName`: it is a name again unless it starts with a digit.
-/

namespace SceneCompiler

namespace TokenExpression

/-- The text is a name: one that may start an identifier, and name characters behind it. -/
def IsName (s : List Char) : Prop :=
  ∃ first rest, s = first :: rest ∧ isIdentStart first = true ∧ ∀ c ∈ rest, isNameChar c = true

/-- No name goes on here. -/
def NameEnds (s : List Char) : Prop :=
  s.head?.all (fun c => !isNameChar c) = true

theorem IsName.ne_nil {s : List Char} (h : IsName s) : s ≠ [] := by
  obtain ⟨first, rest, rfl, -, -⟩ := h
  exact List.cons_ne_nil first rest

/-! ## Scanning a name -/

/-- A name is taken whole, as far as it goes. -/
theorem takeName?_append {name rest : List Char} (hname : IsName name) (hend : NameEnds rest) :
    takeName? (name ++ rest) = some (name, rest) := by
  obtain ⟨first, others, rfl, hfirst, hothers⟩ := hname
  simp [takeName?, hfirst, takeWhile_append_of_head? hothers hend,
    dropWhile_append_of_head? hothers hend]

/-- What is taken for a name: a name at the start of the text, as far as it goes. -/
theorem takeName?_eq_some_iff {s name rest : List Char} :
    takeName? s = some (name, rest) ↔ IsName name ∧ NameEnds rest ∧ s = name ++ rest := by
  constructor
  · intro h
    cases s with
    | nil => simp [takeName?] at h
    | cons c tail =>
      simp only [takeName?] at h
      split at h
      · next hc =>
        obtain ⟨rfl, rfl⟩ := Prod.mk.inj (Option.some.inj h)
        refine ⟨⟨c, _, rfl, hc, fun d hd => List.mem_takeWhile_imp hd⟩, ?_, ?_⟩
        · have hhead := List.head?_dropWhile_not isNameChar tail
          unfold NameEnds
          cases hrest : (tail.dropWhile isNameChar).head? with
          | none => rfl
          | some d => simpa [hrest] using hhead
        · rw [List.cons_append, List.takeWhile_append_dropWhile]
      · exact absurd h (by nofun)
  · rintro ⟨hname, hend, rfl⟩
    exact takeName?_append hname hend

theorem isName_of_takeName? {s name rest : List Char} (h : takeName? s = some (name, rest)) :
    IsName name :=
  (takeName?_eq_some_iff.mp h).1

/-- The text before a name in a reference: the function's name, its parenthesis, any blanks, and
two dashes. -/
def IsOpening (s : List Char) : Prop :=
  ∃ blanks : List Char, (∀ c ∈ blanks, isBlank c = true)
    ∧ s = "var(".toList ++ (blanks ++ "--".toList)

theorem dropOpening?_eq_some_iff {s body : List Char} :
    dropOpening? s = some body ↔ ∃ opening, IsOpening opening ∧ s = opening ++ body := by
  unfold dropOpening?
  simp only [Option.bind_eq_bind, Option.bind_eq_some_iff, stripStart?_eq_some_iff]
  constructor
  · rintro ⟨inner, rfl, hdashes⟩
    refine ⟨"var(".toList ++ (inner.takeWhile isBlank ++ "--".toList),
      ⟨_, fun c hc => List.mem_takeWhile_imp hc, rfl⟩, ?_⟩
    rw [List.append_assoc, List.append_assoc, ← hdashes, List.takeWhile_append_dropWhile]
  · rintro ⟨opening, ⟨blanks, hblanks, rfl⟩, rfl⟩
    refine ⟨blanks ++ ("--".toList ++ body), by simp only [List.append_assoc], ?_⟩
    -- The first dash is no blank.
    rw [List.dropWhile_append_of_pos hblanks]
    exact List.dropWhile_cons_of_neg (by decide)

theorem isOpening_plain : IsOpening "var(--".toList :=
  ⟨[], by simp, rfl⟩

theorem dropOpening?_append (body : List Char) :
    dropOpening? ("var(--".toList ++ body) = some body :=
  dropOpening?_eq_some_iff.mpr ⟨_, isOpening_plain, rfl⟩

/-- What is taken for the start of a reference: an opening, a name as far as it goes, and the
rest. -/
theorem referenceStart?_eq_some_iff {s opening name rest : List Char} :
    referenceStart? s = some (opening, name, rest)
      ↔ IsOpening opening ∧ IsName name ∧ NameEnds rest ∧ s = opening ++ (name ++ rest) := by
  have htake (front body : List Char) :
      (front ++ body).take ((front ++ body).length - body.length) = front := by
    rw [List.length_append, Nat.add_sub_cancel, List.take_left]
  unfold referenceStart?
  simp only [Option.bind_eq_bind, Option.bind_eq_some_iff, Option.pure_def, Prod.exists,
    takeName?_eq_some_iff, Option.some.injEq, Prod.mk.injEq]
  constructor
  · rintro ⟨body, hbody, name', rest', ⟨hname, hend, rfl⟩, hopening, rfl, rfl⟩
    obtain ⟨front, hfront, rfl⟩ := dropOpening?_eq_some_iff.mp hbody
    rw [htake] at hopening
    exact ⟨hopening ▸ hfront, hname, hend, hopening ▸ rfl⟩
  · rintro ⟨hopening, hname, hend, rfl⟩
    exact ⟨name ++ rest, dropOpening?_eq_some_iff.mpr ⟨opening, hopening, rfl⟩, name, rest,
      ⟨hname, hend, rfl⟩, htake opening _, rfl, rfl⟩

/-- A reference starts with its opening, followed by the whole name. -/
theorem referenceStart?_reference {name rest : List Char} (hname : IsName name)
    (hend : NameEnds rest) :
    referenceStart? ("var(--".toList ++ (name ++ rest)) = some ("var(--".toList, name, rest) :=
  referenceStart?_eq_some_iff.mpr ⟨isOpening_plain, hname, hend, rfl⟩

/-! ## Reading a name -/

theorem not_isWhite_of_isNameChar {c : Char} (h : isNameChar c = true) : isWhite c = false := by
  simp only [isNameChar, isIdentChar, Char.isAlphanum, Char.isAlpha, Char.isUpper, Char.isLower,
    Char.isDigit, Bool.or_eq_true, Bool.and_eq_true, decide_eq_true_eq, beq_iff_eq] at h
  -- All white space lies outside of the range of these characters.
  have hrange : 33 ≤ c.toNat ∧ c.toNat ≤ 122 := by
    rcases h with ((((h | h) | h) | h) | h) | h
    · exact ⟨le_trans (by decide) (UInt32.le_iff_toNat_le.mp h.1),
        le_trans (UInt32.le_iff_toNat_le.mp h.2) (by decide)⟩
    · exact ⟨le_trans (by decide) (UInt32.le_iff_toNat_le.mp h.1),
        le_trans (UInt32.le_iff_toNat_le.mp h.2) (by decide)⟩
    · exact ⟨le_trans (by decide) (UInt32.le_iff_toNat_le.mp h.1),
        le_trans (UInt32.le_iff_toNat_le.mp h.2) (by decide)⟩
    all_goals rw [h]; decide
  obtain ⟨hlow, hhigh⟩ := hrange
  simp only [isWhite, Bool.or_eq_false_iff, Bool.and_eq_false_iff, decide_eq_false_iff_not,
    beq_eq_false_iff_ne]
  omega

theorem IsName.isNameChar {s : List Char} (h : IsName s) : ∀ c ∈ s, isNameChar c = true := by
  obtain ⟨first, rest, rfl, hfirst, hrest⟩ := h
  intro c hc
  rcases List.mem_cons.mp hc with rfl | htail
  · simp only [isIdentStart, Bool.or_eq_true] at hfirst
    simp only [TokenExpression.isNameChar, isIdentChar, Char.isAlphanum, Bool.or_eq_true]
    tauto
  · exact hrest c htail

/-- A name that starts with no dash reads as itself. -/
theorem parse?_of_isName {text : String} (hname : IsName text.toList)
    (hdash : text.toList.head? ≠ some '-') : parse? text = some ⟨text, none⟩ := by
  have htrim : trimChars text.toList = text.toList :=
    trimChars_of_not_white fun c hc => not_isWhite_of_isNameChar (hname.isNameChar c hc)
  -- A name has no parenthesis, so it is no reference, and no sigil, so nothing is dropped.
  have hopening : "var(".toList.isPrefixOf text.toList = false := by
    rw [Bool.eq_false_iff]
    intro hstarts
    have hparen : '(' ∈ text.toList := by
      obtain ⟨rest, hrest⟩ := List.isPrefixOf_iff_prefix.mp hstarts
      rw [← hrest]
      simp
    exact absurd (hname.isNameChar '(' hparen) (by decide)
  have hsigil : dropSigil text.toList = text.toList := by
    obtain ⟨first, rest, heq, hfirst, -⟩ := hname
    rw [heq] at hdash ⊢
    unfold dropSigil
    split
    · next htext => simp [(List.cons.inj htext).1] at hdash
    · next htext => exact absurd hfirst (by rw [(List.cons.inj htext).1]; decide)
    · next htext => exact absurd hfirst (by rw [(List.cons.inj htext).1]; decide)
    · rfl
  have hread : readName? text.toList = some (⟨text, none⟩, []) := by
    have htake : takeName? (text.toList ++ []) = some (text.toList, []) :=
      takeName?_append hname rfl
    rw [List.append_nil] at htake
    unfold readName?
    rw [hsigil, htake]
    simp
  unfold parse?
  simp only [htrim, hopening, hread]
  rfl

end TokenExpression

/-! ## Normalized names -/

/-- The characters that normalizing keeps: those of words. -/
def isWordChar (c : Char) : Bool :=
  c.isAlphanum || c == '_'

theorem isWordChar_toLower {c : Char} (h : isWordChar c = true) : isWordChar c.toLower = true := by
  by_cases hupper : c.isUpper
  · have halpha : c.toLower.isAlpha = true := by
      simp [Char.isAlpha, hupper]
    simp [isWordChar, Char.isAlphanum, halpha]
  · rwa [Char.toLower_eq_of_not_isUpper hupper]

/-- Hyphenated texts have word characters and dashes only. -/
theorem mem_hyphenateFrom {d : Char} (s : List Char) :
    ∀ started pending : Bool, d ∈ hyphenateFrom isWordChar started pending s →
      isWordChar d = true ∨ d = '-' := by
  induction s with
  | nil =>
    intro started pending h
    simp [hyphenateFrom] at h
  | cons c rest ih =>
    intro started pending h
    by_cases hc : isWordChar c
    · simp only [hyphenateFrom, hc, if_true, List.mem_append] at h
      rcases h with hhere | hlater
      · split at hhere
        · rcases List.mem_cons.mp hhere with rfl | hlast
          · exact Or.inr rfl
          · rw [List.mem_singleton.mp hlast]
            exact Or.inl (isWordChar_toLower hc)
        · rw [List.mem_singleton.mp hhere]
          exact Or.inl (isWordChar_toLower hc)
      · exact ih _ _ hlater
    · simp only [hyphenateFrom, hc, Bool.false_eq_true, if_false] at h
      exact ih _ _ h

/-- A hyphenated text starts with a word. -/
theorem head?_hyphenateFrom {d : Char} (s : List Char) :
    ∀ pending : Bool, (hyphenateFrom isWordChar false pending s).head? = some d →
      isWordChar d = true := by
  induction s with
  | nil =>
    intro pending h
    simp [hyphenateFrom] at h
  | cons c rest ih =>
    intro pending h
    by_cases hc : isWordChar c
    · simp only [hyphenateFrom, hc, if_true, Bool.false_and, Bool.false_eq_true, if_false,
        List.cons_append, List.head?_cons, Option.some.injEq] at h
      rw [← h]
      exact isWordChar_toLower hc
    · simp only [hyphenateFrom, hc, Bool.false_eq_true, if_false] at h
      exact ih true h

/-- The characters of a normalized name: the hyphenated words, or a fixed word if there are none. -/
theorem toList_normalizeName (raw : String) :
    (normalizeName raw).toList =
      if hyphenate isWordChar raw.toList = [] then "token".toList
      else hyphenate isWordChar raw.toList := by
  unfold normalizeName
  split
  · next h =>
    have hnone : hyphenate isWordChar raw.toList = [] := h
    rw [if_pos hnone]
  · next h =>
    have hsome : hyphenate isWordChar raw.toList ≠ [] := h
    rw [if_neg hsome, String.toList_ofList]
    rfl

/-- A normalized name starts with the start of a word, never with a dash. -/
theorem head?_normalizeName (raw : String) :
    ∃ c rest, (normalizeName raw).toList = c :: rest ∧ isWordChar c = true
      ∧ ∀ d ∈ rest, isWordChar d = true ∨ d = '-' := by
  rw [toList_normalizeName]
  by_cases h : hyphenate isWordChar raw.toList = []
  · rw [if_pos h]
    refine ⟨'t', ['o', 'k', 'e', 'n'], rfl, by decide, ?_⟩
    intro d hd
    left
    simp only [List.mem_cons, List.not_mem_nil, or_false] at hd
    rcases hd with rfl | rfl | rfl | rfl <;> rfl
  · rw [if_neg h]
    obtain ⟨c, rest, hcons⟩ := List.exists_cons_of_ne_nil h
    refine ⟨c, rest, hcons, ?_, ?_⟩
    · apply head?_hyphenateFrom raw.toList false
      show (hyphenate isWordChar raw.toList).head? = some c
      rw [hcons, List.head?_cons]
    · intro d hd
      apply mem_hyphenateFrom raw.toList false false
      show d ∈ hyphenate isWordChar raw.toList
      rw [hcons]
      exact List.mem_cons_of_mem c hd

theorem isNameChar_of_isWordChar {c : Char} (h : isWordChar c = true ∨ c = '-') :
    TokenExpression.isNameChar c = true := by
  rcases h with h | rfl
  · simp only [isWordChar, Bool.or_eq_true] at h
    simp only [TokenExpression.isNameChar, isIdentChar, Bool.or_eq_true]
    tauto
  · decide

/-- A normalized name can be scanned as a name unless it starts with a digit. -/
theorem isName_normalizeName {raw : String}
    (h : ¬ (normalizeName raw).toList.head?.any Char.isDigit) :
    TokenExpression.IsName (normalizeName raw).toList := by
  obtain ⟨c, rest, heq, hc, hrest⟩ := head?_normalizeName raw
  rw [heq] at h ⊢
  refine ⟨c, rest, rfl, ?_, fun d hd => isNameChar_of_isWordChar (hrest d hd)⟩
  simp only [isWordChar, Char.isAlphanum, Bool.or_eq_true] at hc
  simp only [List.head?_cons, Option.any_some] at h
  simp only [isIdentStart, Bool.or_eq_true]
  tauto

/-- A canonical name starts with no dash, whether a hook chose it or not. -/
theorem head?_canonicalName (raw : String) (chosen : Option String) :
    (canonicalName raw chosen).toList.head? ≠ some '-' := by
  unfold canonicalName
  split
  · next c name heq =>
    obtain ⟨e, -, he⟩ := Option.map_eq_some_iff.mp heq
    have hhead := List.head?_dropWhile_not (fun d : Char => decide (d = '-')) e.name.toList
    rw [he] at hhead
    simpa using hhead
  · obtain ⟨c, rest, hcons, hc, -⟩ := head?_normalizeName raw
    rw [hcons, List.head?_cons]
    intro hdash
    rw [Option.some.inj hdash] at hc
    exact absurd hc (by decide)

end SceneCompiler
