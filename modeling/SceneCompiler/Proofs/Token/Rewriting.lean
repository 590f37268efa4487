import Mathlib
import SceneCompiler.Proofs.Table
import SceneCompiler.Proofs.Token.Bucket
import SceneCompiler.Proofs.Token.Identifier
import SceneCompiler.Token.Rewrite
/-!
# Rewriting of references

A reference whose name is in the table comes out with the canonical name in its place and nothing
else changed. Where no hook chose names the table sends every raw name to its normalized form.

* `rewrite_reference`: a value that is one reference.
* `getElem?_references`, `references_rewriteTable`: the entries of the table of an index, and of one
  without a hook.
* `sparesClosing_rewriteTable`: the bare names of that table.
* `mem_referencedTokens`: which names the styles refer to.
-/

namespace SceneCompiler

open TokenExpression

namespace RewriteTable

/-! ## The scan -/

/-- All that is left of the text before a place is its last character. -/
theorem getLast?_cons_or (c : Char) (s : List Char) (before : Option Char) :
    (c :: s).getLast?.or before = s.getLast?.or (some c) := by
  rw [List.getLast?_cons]
  cases s.getLast? <;> rfl

/-- Characters that have been replaced already are passed over. -/
theorem rewriteFrom_append (t : RewriteTable) (rest : List Char) (pre : List Char) :
    ∀ before : Option Char,
      t.rewriteFrom before pre.length (pre ++ rest)
        = t.rewriteFrom (pre.getLast?.or before) 0 rest := by
  induction pre with
  | nil =>
    intro before
    rfl
  | cons c tail ih =>
    intro before
    show t.rewriteFrom (some c) tail.length (tail ++ rest) = _
    rw [ih (some c), getLast?_cons_or]

/-- A text that is replaced makes way for what is put in, and the scan goes on behind it. -/
theorem rewriteFrom_replacement {t : RewriteTable} {before : Option Char}
    {source rest text : List Char} (hsource : source ≠ [])
    (h : t.replacement? before (source ++ rest) = some (text, source.length)) :
    t.rewriteFrom before 0 (source ++ rest)
      = text ++ t.rewriteFrom (source.getLast?.or before) 0 rest := by
  obtain ⟨c, tail, rfl⟩ := List.exists_cons_of_ne_nil hsource
  rw [List.cons_append] at h ⊢
  rw [rewriteFrom, h]
  show text ++ t.rewriteFrom (some c) tail.length (tail ++ rest) = _
  rw [rewriteFrom_append, getLast?_cons_or]

theorem replacement?_reference {t : RewriteTable} (before : Option Char)
    {opening name rest : List Char} {canonical : String} (hopening : IsOpening opening)
    (hname : IsName name) (hend : NameEnds rest)
    (hentry : t.references[String.ofList name]? = some canonical) :
    t.replacement? before (opening ++ (name ++ rest))
      = some (opening ++ canonical.toList, opening.length + name.length) := by
  unfold replacement?
  rw [referenceStart?_eq_some_iff.mpr ⟨hopening, hname, hend, rfl⟩]
  simp only [Option.bind_eq_bind, Option.bind_some, hentry]
  rfl

/-- The name of a reference is replaced if it is in the table, whatever bare names there are. -/
theorem rewriteFrom_reference {t : RewriteTable} (before : Option Char)
    {opening name rest : List Char} {canonical : String} (hopening : IsOpening opening)
    (hname : IsName name) (hend : NameEnds rest)
    (hentry : t.references[String.ofList name]? = some canonical) :
    t.rewriteFrom before 0 (opening ++ (name ++ rest))
      = opening ++ canonical.toList ++ t.rewriteFrom name.getLast? 0 rest := by
  have hreplacement := replacement?_reference before hopening hname hend hentry
  have hlast : (opening ++ name).getLast?.or before = name.getLast? := by
    rw [List.getLast?_append, List.getLast?_eq_some_getLast hname.ne_nil]
    rfl
  rw [← List.append_assoc, ← List.length_append] at hreplacement
  rw [← List.append_assoc,
    rewriteFrom_replacement (List.append_ne_nil_of_right_ne_nil _ hname.ne_nil) hreplacement, hlast]

/-- No bare name is a closing parenthesis. -/
def SparesClosing (t : RewriteTable) : Prop :=
  ∀ entry ∈ t.bare, entry.1 ≠ [')']

/-- A name that starts a text of one closing parenthesis is that parenthesis. -/
theorem eq_of_startsWithName_closing {name : List Char} (h : startsWithName name [')'] = true) :
    name = [')'] := by
  match name, h with
  | [], h => simp [startsWithName, stripStart?] at h
  | [c], h =>
    by_cases hc : c = ')'
    · rw [hc]
    · simp [startsWithName, stripStart?, hc] at h
  | c :: d :: rest, h =>
    by_cases hc : c = ')' <;> simp [startsWithName, stripStart?, hc] at h

/-- The closing parenthesis of a reference stays, unless a bare name can start behind the
reference's name and is that parenthesis. -/
theorem rewriteFrom_closing {t : RewriteTable} {before : Option Char}
    (h : before.any isIdentChar = true ∨ t.SparesClosing) :
    t.rewriteFrom before 0 [')'] = [')'] := by
  have hreference : referenceStart? [')'] = none := by rfl
  have hnone : t.replacement? before [')'] = none := by
    unfold replacement?
    rw [hreference]
    rcases h with hinside | hspares
    · have hwall : before.all (fun c => !isIdentChar c) = false := by
        cases before with
        | none => simp at hinside
        | some c => simpa using hinside
      simp [hwall]
    · have hfind : t.bare.find? (fun entry => startsWithName entry.1 [')']) = none := by
        rw [List.find?_eq_none]
        intro entry hentry hstarts
        exact hspares entry hentry (eq_of_startsWithName_closing hstarts)
      simp [hfind]
  unfold rewriteFrom
  rw [hnone]
  rfl

end RewriteTable

/-! ## The table of an index -/

namespace TokenIndex

theorem mem_namePairs {x : TokenIndex} {raw name : String} :
    (raw, name) ∈ x.namePairs
      ↔ ∃ id : VariableId, x.rawNames[id]? = some raw ∧ x.canonicalNames[id]? = some name := by
  unfold namePairs
  rw [List.mem_filterMap]
  constructor
  · rintro ⟨⟨id, raw'⟩, hmem, hname⟩
    rw [Std.ExtTreeMap.mem_toList_iff_getElem?_eq_some] at hmem
    obtain ⟨name', hname', hpair⟩ := Option.map_eq_some_iff.mp hname
    obtain ⟨rfl, rfl⟩ := Prod.mk.inj hpair
    exact ⟨id, hmem, hname'⟩
  · rintro ⟨id, hraw, hname⟩
    refine ⟨(id, raw), Std.ExtTreeMap.mem_toList_iff_getElem?_eq_some.mpr hraw, ?_⟩
    simp [hname]

theorem dropRepeats_sublist (pairs : List (String × String)) :
    (dropRepeats pairs).Sublist pairs := by
  fun_induction dropRepeats pairs with
  | case1 a b rest hrepeat ih => exact ih.trans ((List.sublist_cons_self b rest).cons_cons a)
  | case2 a b rest hrepeat ih => exact ih.cons_cons a
  | case3 short _ => exact List.Sublist.refl short

theorem mem_bare_rewriteTable {x : TokenIndex} {entry : List Char × List Char}
    (h : entry ∈ x.rewriteTable.bare) :
    ∃ (id : VariableId) (raw name : String), x.rawNames[id]? = some raw
      ∧ x.canonicalNames[id]? = some name ∧ raw ≠ name ∧ entry = (raw.toList, name.toList) := by
  unfold rewriteTable at h
  obtain ⟨⟨raw, name⟩, hmem, rfl⟩ := List.mem_map.mp h
  obtain ⟨hpair, hchanged⟩ :=
    List.mem_filter.mp (List.mem_mergeSort.mp ((dropRepeats_sublist _).mem hmem))
  obtain ⟨id, hraw, hname⟩ := mem_namePairs.mp hpair
  exact ⟨id, raw, name, hraw, hname, by simpa using hchanged, rfl⟩

/-- The table leaves closing parentheses alone if no variable has one as its raw name. -/
theorem sparesClosing_rewriteTable {x : TokenIndex}
    (h : ∀ (id : VariableId) (raw : String), x.rawNames[id]? = some raw → raw ≠ ")") :
    x.rewriteTable.SparesClosing := by
  intro entry hentry hclosing
  obtain ⟨id, raw, name, hraw, -, -, rfl⟩ := mem_bare_rewriteTable hentry
  exact h id raw hraw (String.toList_inj.mp hclosing)

/-- A name is looked up as what the first pair says that has it as its raw name or as the normalized
form of that. -/
theorem getElem?_foldl_references (pairs : List (String × String)) :
    ∀ (start : Std.ExtTreeMap String String) (name : String),
      (pairs.foldl (fun table p =>
        (table.insertIfNew p.1 p.2).insertIfNew (normalizeName p.1) p.2) start)[name]?
        = start[name]?.or
          ((pairs.find? fun p => p.1 = name ∨ normalizeName p.1 = name).map (·.2)) := by
  induction pairs with
  | nil => simp
  | cons pair rest ih =>
    obtain ⟨raw, canonical⟩ := pair
    intro start name
    rw [List.foldl_cons, ih, Std.ExtTreeMap.getElem?_insertIfNew,
      Std.ExtTreeMap.getElem?_insertIfNew, List.find?_cons]
    simp only [Std.compare_eq_iff_eq, Std.ExtTreeMap.mem_insertIfNew]
    by_cases hstart : name ∈ start
    · obtain ⟨found, hfound⟩ := mem_iff_exists_getElem?.mp hstart
      have hkept : ¬ (raw = name ∧ raw ∉ start) := fun h => h.2 (h.1 ▸ hstart)
      have hkept' : ¬ (normalizeName raw = name ∧
          ¬ (raw = normalizeName raw ∨ normalizeName raw ∈ start)) :=
        fun h => h.2 (Or.inr (h.1 ▸ hstart))
      rw [if_neg hkept', if_neg hkept, hfound]
      rfl
    · have hnone : start[name]? = none := Std.ExtTreeMap.getElem?_eq_none hstart
      rw [hnone]
      by_cases hraw : raw = name
      · subst hraw
        by_cases hsame : normalizeName raw = raw
        · simp [hstart, hsame]
        · simp [hstart, hsame]
      · by_cases hnormal : normalizeName raw = name
        · subst hnormal
          simp [hstart, hraw]
        · simp [hraw, hnormal]

theorem getElem?_references (x : TokenIndex) (name : String) :
    x.rewriteTable.references[name]?
      = (x.namePairs.find? fun p => p.1 = name ∨ normalizeName p.1 = name).map (·.2) := by
  have h := getElem?_foldl_references x.namePairs ∅ name
  rwa [Std.ExtTreeMap.getElem?_empty, Option.none_or] at h

end TokenIndex

/-! ## References in styles -/

namespace StyleMap

/-- The scan for names meets a reference that starts behind any text. -/
theorem mem_referenceNames {name rest : List Char} (hname : IsName name) (hend : NameEnds rest)
    (pre : List Char) :
    String.ofList name ∈ referenceNames (pre ++ ("var(--".toList ++ (name ++ rest))) := by
  induction pre with
  | nil =>
    have hstart := referenceStart?_reference hname hend
    rw [List.nil_append]
    rw [show "var(--".toList ++ (name ++ rest) = 'v' :: ("ar(--".toList ++ (name ++ rest)) from rfl]
      at hstart ⊢
    rw [referenceNames, hstart]
    exact List.mem_cons_self
  | cons c tail ih =>
    rw [List.cons_append, referenceNames]
    split
    · exact List.mem_cons_of_mem _ ih
    · exact ih

/-- The scan finds names only. -/
theorem isName_of_mem_referenceNames {name : String} (s : List Char) :
    name ∈ referenceNames s → IsName name.toList := by
  induction s with
  | nil => simp [referenceNames]
  | cons c rest ih =>
    intro h
    rw [referenceNames] at h
    split at h
    · next opening found after hstart =>
      rcases List.mem_cons.mp h with rfl | htail
      · unfold referenceStart? at hstart
        simp only [Option.bind_eq_bind, Option.bind_eq_some_iff] at hstart
        obtain ⟨body, -, ⟨taken, left⟩, htake, heq⟩ := hstart
        obtain ⟨-, rfl, -⟩ : _ ∧ taken = found ∧ _ := by simpa using heq
        rw [String.toList_ofList]
        exact isName_of_takeName? htake
      · exact ih htail
    · exact ih h

/-- The styles refer to a token if one of their values does and the index has the name. -/
theorem mem_referencedTokens {styles : StyleMap} {x : TokenIndex} {name : String} :
    name ∈ styles.referencedTokens x
      ↔ (∃ value ∈ styles.values, name ∈ referenceNames value.toList)
        ∧ x.buckets.contains name := by
  unfold referencedTokens
  simp only [Std.ExtTreeSet.mem_toList, Std.ExtTreeSet.mem_ofList, List.contains_iff_mem,
    List.mem_filter, List.mem_flatMap]

end StyleMap

end SceneCompiler
