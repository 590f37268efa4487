import Mathlib
import SceneCompiler.Proofs.Operation.References
import SceneCompiler.Proofs.Operation.TokenDefs
import SceneCompiler.Proofs.Token.Grammar
/-!
# Names of tokens that can be read back

A canonical name is made of name characters and starts with no dash, but it may start with a digit
or with a point, and no scanner takes such a text for a name. The scanners agree about this: what is
written with a canonical name is read back everywhere just when the name can start an identifier.

* `undashed_canonicalName`: what canonical names look like.
* `parse?_of_mem_spellings`: one answer for all spellings of a name.
* `requestedTokenName_of_mem_spellings`: what a spelling asks for.
* `canonicalName_readable_iff`: when a canonical name and the code for a hook can be read.
-/

namespace SceneCompiler

open TokenExpression

/-! ## The form of canonical names -/

namespace TokenExpression

/-- Name characters, at least one, the first of which is no dash. -/
def Undashed (s : List Char) : Prop :=
  ∃ first rest, s = first :: rest ∧ first ≠ '-' ∧ ∀ c ∈ first :: rest, isNameChar c = true

/-- The first character can start an identifier. -/
def Opens (s : List Char) : Prop :=
  s.head?.any isIdentStart = true

instance (s : List Char) : Decidable (Opens s) :=
  inferInstanceAs (Decidable (_ = true))

theorem Undashed.isNameChar {s : List Char} (h : Undashed s) : ∀ c ∈ s, isNameChar c = true := by
  obtain ⟨first, rest, rfl, -, hchars⟩ := h
  exact hchars

theorem Undashed.isName_iff {s : List Char} (h : Undashed s) : IsName s ↔ Opens s := by
  obtain ⟨first, rest, rfl, -, hchars⟩ := h
  constructor
  · intro hname
    obtain ⟨first', rest', heq, hstart, -⟩ := hname
    obtain ⟨rfl, rfl⟩ := List.cons.inj heq
    exact hstart
  · intro hopens
    exact ⟨first, rest, rfl, hopens, fun c hc => hchars c (List.mem_cons_of_mem first hc)⟩

end TokenExpression

/-- A canonical name is made of name characters and starts with no dash. -/
theorem undashed_canonicalName (raw : String) (chosen : Option String) :
    Undashed (canonicalName raw chosen).toList := by
  have hhead := head?_canonicalName raw chosen
  have hchars : (canonicalName raw chosen).toList ≠ []
      ∧ ∀ c ∈ (canonicalName raw chosen).toList, isNameChar c = true := by
    unfold canonicalName
    split
    · next c name heq =>
      obtain ⟨e, hparsed, hrest⟩ := Option.map_eq_some_iff.mp heq
      obtain ⟨text, -, hread⟩ := Option.bind_eq_some_iff.mp hparsed
      rw [String.toList_ofList]
      refine ⟨List.cons_ne_nil c name, fun d hd => ?_⟩
      -- What is left of a name without its dashes is part of the name.
      have hmem : d ∈ e.name.toList := (List.dropWhile_suffix _).subset (hrest ▸ hd)
      exact (isName_of_parse? hread).isNameChar d hmem
    · obtain ⟨c, rest, hcons, hc, hrest⟩ := head?_normalizeName raw
      rw [hcons]
      refine ⟨List.cons_ne_nil c rest, fun d hd => ?_⟩
      rcases List.mem_cons.mp hd with rfl | htail
      · exact isNameChar_of_isWordChar (Or.inl hc)
      · exact isNameChar_of_isWordChar (hrest d htail)
  obtain ⟨first, rest, hcons⟩ := List.exists_cons_of_ne_nil hchars.1
  rw [hcons] at hhead hchars ⊢
  exact ⟨first, rest, rfl, fun hdash => hhead (congrArg some hdash), hchars.2⟩

theorem undashed_normalizeName (raw : String) : Undashed (normalizeName raw).toList :=
  undashed_canonicalName raw none

/-- A normalized name can start an identifier unless it starts with a digit. -/
theorem opens_normalizeName_iff (raw : String) :
    Opens (normalizeName raw).toList ↔ ¬ (normalizeName raw).toList.head?.any Char.isDigit := by
  constructor
  · intro hopens hdigit
    obtain ⟨c, rest, hcons, -, -⟩ := head?_normalizeName raw
    rw [Opens, hcons, List.head?_cons, Option.any_some] at hopens
    rw [hcons, List.head?_cons, Option.any_some] at hdigit
    simp only [Char.isDigit, isIdentStart, Char.isAlpha, Char.isUpper, Char.isLower,
      Bool.or_eq_true, Bool.and_eq_true, decide_eq_true_eq, beq_iff_eq,
      UInt32.le_iff_toNat_le] at hdigit hopens
    have hlow : '9'.val.toNat = 57 := rfl
    have hletters : 'A'.val.toNat = 65 ∧ 'a'.val.toNat = 97 := ⟨rfl, rfl⟩
    rcases hopens with ((hupper | hlower) | rfl) | rfl
    · omega
    · omega
    · exact absurd hdigit.2 (by decide)
    · exact absurd hdigit.1 (by decide)
  · intro hdigit
    exact (undashed_normalizeName raw).isName_iff.mp (isName_normalizeName hdigit)

/-! ## Reading a name back -/

/-- A text of name characters is taken for a name where it can start an identifier. -/
theorem takeName?_undashed {s rest : List Char} (hs : Undashed s) (hend : NameEnds rest) :
    takeName? (s ++ rest) = if Opens s then some (s, rest) else none := by
  split
  · next hopens => exact takeName?_append (hs.isName_iff.mpr hopens) hend
  · next hclosed =>
    obtain ⟨first, others, rfl, -, -⟩ := hs
    have hfirst : isIdentStart first = false := Bool.eq_false_of_not_eq_true hclosed
    simp [takeName?, hfirst]

/-- The ways in which a token can be written. -/
def spellings (name : String) : List String :=
  [name, "--" ++ name, referenceTo name]

theorem referenceTo_mem_spellings (name : String) : referenceTo name ∈ spellings name := by
  simp [spellings]

theorem not_isWhite_of_mem_spellings {name text : String} (hname : Undashed name.toList)
    (htext : text ∈ spellings name) : ∀ c ∈ text.toList, isWhite c = false := by
  have hplain : ∀ c ∈ name.toList, isWhite c = false :=
    fun c hc => not_isWhite_of_isNameChar (hname.isNameChar c hc)
  intro c hc
  simp only [spellings, List.mem_cons, List.not_mem_nil, or_false] at htext
  rcases htext with rfl | rfl | rfl
  · exact hplain c hc
  · rw [String.toList_append, List.mem_append] at hc
    rcases hc with hdash | hrest
    · have hall : "--".toList.all (fun c => !isWhite c) = true := by decide
      simpa using List.all_eq_true.mp hall c hdash
    · exact hplain c hrest
  · unfold referenceTo at hc
    rw [String.toList_append, String.toList_append, List.mem_append, List.mem_append] at hc
    rcases hc with (hopening | hrest) | hclosing
    · have hall : "var(--".toList.all (fun c => !isWhite c) = true := by decide
      simpa using List.all_eq_true.mp hall c hopening
    · exact hplain c hrest
    · rw [List.mem_singleton.mp hclosing]
      decide

/-- A reference is read as its name where that can start an identifier. -/
theorem readReference?_referenceTo {name : String} (hname : Undashed name.toList) :
    readReference? (referenceTo name).toList
      = if Opens name.toList then some (⟨name, none⟩, []) else none := by
  have htext : (referenceTo name).toList = "var(--".toList ++ (name.toList ++ [')']) := by
    unfold referenceTo
    rw [String.toList_append, String.toList_append, List.append_assoc]
    rfl
  have htake := takeName?_undashed hname (show NameEnds [')'] by rfl)
  unfold readReference?
  rw [htext, dropOpening?_append]
  simp only [Option.bind_eq_bind, Option.bind_some, htake]
  split
  · simp [takeFallback, isBlank]
  · rfl

/-- A name, with two dashes in front of it or without, is read as itself where it can start an
identifier. -/
theorem readName?_undashed {s text : List Char} (hs : Undashed s)
    (htext : text = s ∨ text = '-' :: '-' :: s) :
    readName? text = if Opens s then some (⟨String.ofList s, none⟩, []) else none := by
  have hdrop : dropSigil text = s := by
    rcases htext with rfl | rfl
    · obtain ⟨first, rest, rfl, hdash, hchars⟩ := hs
      have hfirst := hchars first List.mem_cons_self
      unfold dropSigil
      split
      · next heq => exact absurd (List.cons.inj heq).1 hdash
      · next heq => exact absurd hfirst (by rw [(List.cons.inj heq).1]; decide)
      · next heq => exact absurd hfirst (by rw [(List.cons.inj heq).1]; decide)
      · rfl
    · rfl
  have htake := takeName?_undashed hs (show NameEnds [] by rfl)
  rw [List.append_nil] at htake
  unfold readName?
  rw [hdrop, htake]
  split <;> rfl

/-- All spellings of a name are read as the name where it can start an identifier, and none of them
is read where it cannot. -/
theorem parse?_of_mem_spellings {name text : String} (hname : Undashed name.toList)
    (htext : text ∈ spellings name) :
    parse? text = if Opens name.toList then some ⟨name, none⟩ else none := by
  have htrim : trimChars text.toList = text.toList :=
    trimChars_of_not_white (not_isWhite_of_mem_spellings hname htext)
  have hread : (if "var(".toList.isPrefixOf text.toList then readReference? text.toList
        else readName? text.toList)
      = if Opens name.toList then some (⟨name, none⟩, []) else none := by
    simp only [spellings, List.mem_cons, List.not_mem_nil, or_false] at htext
    rcases htext with rfl | rfl | rfl
    · have hopening : "var(".toList.isPrefixOf text.toList = false := by
        rw [Bool.eq_false_iff]
        intro hstarts
        obtain ⟨rest, hrest⟩ := List.isPrefixOf_iff_prefix.mp hstarts
        have hparen : '(' ∈ text.toList := by
          rw [← hrest]
          simp
        exact absurd (hname.isNameChar '(' hparen) (by decide)
      rw [hopening, if_neg Bool.false_ne_true, readName?_undashed hname (Or.inl rfl),
        String.ofList_toList]
    · have hdashes : ("--" ++ name).toList = '-' :: '-' :: name.toList := by
        rw [String.toList_append]
        rfl
      rw [hdashes, readName?_undashed hname (Or.inr rfl), String.ofList_toList]
      exact if_neg (by simp)
    · have hopening : "var(".toList.isPrefixOf (referenceTo name).toList = true := by
        rw [List.isPrefixOf_iff_prefix]
        unfold referenceTo
        rw [String.toList_append, String.toList_append, List.append_assoc]
        exact ⟨"--".toList ++ (name.toList ++ ")".toList), rfl⟩
      rw [if_pos hopening, readReference?_referenceTo hname]
  unfold parse?
  simp only [htrim, hread]
  by_cases hopens : Opens name.toList
  · rw [if_pos hopens, if_pos hopens]
  · rw [if_neg hopens, if_neg hopens]

/-- A spelling of a name asks for the token of that name where the name can start an identifier, and
for the token of the spelling itself where it cannot. -/
theorem requestedTokenName_of_mem_spellings {name text : String} (hname : Undashed name.toList)
    (htext : text ∈ spellings name) :
    requestedTokenName text = if Opens name.toList then name else text := by
  have hparse := parse?_of_mem_spellings hname htext
  unfold requestedTokenName
  by_cases hopens : Opens name.toList
  · rw [if_pos hopens] at hparse ⊢
    rw [hparse]
    obtain ⟨first, rest, hcons, hdash, -⟩ := hname
    show String.ofList (name.toList.dropWhile (· = '-')) = name
    rw [hcons, List.dropWhile_cons_of_neg (by simpa using hdash), ← hcons, String.ofList_toList]
  · rw [if_neg hopens] at hparse ⊢
    rw [hparse]
    show String.ofList (trimChars text.toList) = text
    rw [trimChars_of_not_white (not_isWhite_of_mem_spellings hname htext), String.ofList_toList]

/-! ## Canonical names -/

/-- Whatever is written with a name is read back as that name. -/
structure Readable (name : String) : Prop where
  parsed : parse? (referenceTo name) = some ⟨name, none⟩
  referenced : ∀ (styles : StyleMap) (x : TokenIndex), referenceTo name ∈ styles.values →
    x.buckets.contains name → name ∈ styles.referencedTokens x
  requested : ∀ text ∈ spellings name, requestedTokenName text = name

/-- A name of this form can be read back just when it can start an identifier. -/
theorem readable_iff {name : String} (hname : Undashed name.toList) :
    Readable name ↔ Opens name.toList := by
  have hparse := parse?_of_mem_spellings hname (referenceTo_mem_spellings name)
  constructor
  · intro hreadable
    by_contra hclosed
    rw [if_neg hclosed, hreadable.parsed] at hparse
    cases hparse
  · intro hopens
    constructor
    · rw [hparse, if_pos hopens]
    · intro styles x hvalue hcontains
      have hmem := StyleMap.mem_referenceNames (hname.isName_iff.mpr hopens)
        (show NameEnds [')'] by rfl) []
      rw [String.ofList_toList, List.nil_append, ← List.append_assoc] at hmem
      have htext : (referenceTo name).toList = "var(--".toList ++ name.toList ++ [')'] := by
        unfold referenceTo
        rw [String.toList_append, String.toList_append]
        rfl
      rw [← htext] at hmem
      exact StyleMap.mem_referencedTokens.mpr ⟨⟨_, hvalue, hmem⟩, hcontains⟩
    · intro text htext
      rw [requestedTokenName_of_mem_spellings hname htext, if_pos hopens]

/-- The code that a hook for variables is told. -/
theorem code_payload (c : TokenCandidate) (options : CompileOptions) :
    ((c.payload options).member? "code").bind Json.text?
      = some (referenceTo (normalizeName c.rawName)) := by
  unfold TokenCandidate.payload Json.member? referenceTo
  simp [Json.text?]

/-- The canonical name of a candidate, whatever a hook chose, can be read back wherever it is
written just when it starts with a letter or an underscore; and the code that the hook is told is an
expression for the normalized name just when that does not start with a digit. -/
theorem canonicalName_readable_iff (c : TokenCandidate) (chosen : Option String)
    (options : CompileOptions) :
    (Readable (canonicalName c.rawName chosen) ↔ Opens (canonicalName c.rawName chosen).toList)
      ∧ ((((c.payload options).member? "code").bind Json.text?).bind parse?
          = some ⟨normalizeName c.rawName, none⟩
        ↔ ¬ (normalizeName c.rawName).toList.head?.any Char.isDigit) := by
  refine ⟨readable_iff (undashed_canonicalName c.rawName chosen), ?_⟩
  have hparse := parse?_of_mem_spellings (undashed_normalizeName c.rawName)
    (referenceTo_mem_spellings _)
  rw [code_payload, Option.bind_some, hparse, ← opens_normalizeName_iff]
  by_cases hopens : Opens (normalizeName c.rawName).toList
  · simp [hopens]
  · simp [hopens]

/-- An index with one variable of a raw name. -/
def TokenIndex.ofRawName (raw : String) : TokenIndex :=
  ({} : TokenIndex).extend [⟨⟨"v:a"⟩, raw, none⟩] []

/-- Names that start with a digit or a point, by themselves or as a hook chose them: no scanner
takes them for names. -/
theorem canonicalName_unreadable :
    canonicalName "2xl" none = "2xl" ∧ canonicalName "a" (some "---2x") = "2x"
      ∧ canonicalName "a" (some "-.a") = ".a"
      ∧ parse? (referenceTo "2xl") = none ∧ parse? (referenceTo ".a") = none
      ∧ requestedTokenName "--2xl" = "--2xl"
      ∧ requestedTokenName (referenceTo "2xl") = "var(--2xl)"
      ∧ (TokenIndex.ofRawName "2xl").buckets.contains "2xl"
      ∧ StyleMap.referencedTokens
        ((∅ : StyleMap).insert ⟨"f"⟩ ((∅ : Declarations).insert "gap" (referenceTo "2xl")))
        (TokenIndex.ofRawName "2xl") = [] := by
  decide +kernel

end SceneCompiler
