import Mathlib
import SceneCompiler.Proofs.Operation.TokenNames
import SceneCompiler.Proofs.Token.Extension
import SceneCompiler.Proofs.Token.WholeReferences
/-!
# References and bare names of one variable

Several variables can have one raw name. Where a value refers to that name, in a reference or bare,
the variable with the lowest id should stand for it. The two tables of rewriting agree about it
unless another raw name is normalized to this one and its variable has a lower id, or the variable
with the lowest id has the raw name for its canonical name and another one has not.

* `rewrite_bareName`: a bare name that is an identifier is replaced as a whole.
* `rewrite_agree`: when a reference and a bare name come to the same variable.
* `rewrite_disagree`: names for which they do not.
-/

namespace SceneCompiler

open TokenExpression

namespace RewriteTable

variable {t : RewriteTable} {before : Option Char} {s : List Char}

/-- A text without an opening parenthesis refers to nothing. -/
theorem not_refers_of_notMem (h : '(' ∉ s) : ¬ t.Refers s := by
  rintro ⟨opening, name, rest, hstart, -⟩
  obtain ⟨hopening, -, -, rfl⟩ := referenceStart?_eq_some_iff.mp hstart
  obtain ⟨more, rfl⟩ := exists_of_isOpening hopening
  simp at h

/-- A text without references and words is left as it is. -/
theorem rewriteFrom_of_freeOfWords (hparen : '(' ∉ s) (hfree : t.FreeOfWords before s []) :
    t.rewriteFrom before 0 s = s := by
  induction s generalizing before with
  | nil => rfl
  | cons c s ih =>
    obtain ⟨hfirst, hrest⟩ := freeOfWords_cons.mp hfree
    rw [List.append_nil] at hfirst
    have htakes : t.Takes before (c :: s) (.character c) s :=
      .character (not_refers_of_notMem hparen) hfirst
    rw [htakes.rewriteFrom (List.cons_ne_nil c [])]
    exact congrArg (c :: ·) (ih (fun h => hparen (List.mem_cons_of_mem c h)) hrest)

theorem notMem_of_isName (h : IsName s) : '(' ∉ s := fun hmem =>
  absurd (h.isNameChar '(' hmem) (by decide)

end RewriteTable

namespace TokenIndex

open RewriteTable

variable {x : TokenIndex} {before : Option Char} {id : VariableId} {r c raw name : String}

/-! ## Bare names -/

theorem named_rewriteTable
    (h : ∀ (id : VariableId) (raw : String), x.rawNames[id]? = some raw → raw ≠ "") :
    x.rewriteTable.Named := by
  intro entry hentry hnil
  obtain ⟨id, raw, name, hraw, -, -, rfl⟩ := mem_bare_rewriteTable hentry
  exact h id raw hraw (String.toList_inj.mp hnil)

/-- A bare name that is an identifier is replaced as a whole, by the name of the first variable that
changes it. No other bare name that stands at its start is as long. -/
theorem rewrite_bareName (hnamed : x.rewriteTable.Named) (hname : IsName raw.toList)
    (hfirst : (x.namePairs.find? fun p => p.1 = raw ∧ p.1 ≠ p.2) = some (raw, name)) :
    x.rewriteTable.rewrite raw = name := by
  have hfind : x.rewriteTable.bare.find? (fun entry => entry.1 = raw.toList)
      = some (raw.toList, name.toList) := by
    rw [find?_bare, hfirst, Option.map_some]
  have hentry := List.mem_of_find?_eq_some hfind
  have hstands : Stands none raw.toList raw.toList := ⟨rfl, [], (List.append_nil _).symm, rfl⟩
  obtain ⟨raw', canonical, rest, htakes⟩ :=
    exists_takes_word (not_refers_of_notMem (notMem_of_isName hname)) hentry hstands
  have hsplit : raw.toList = raw' ++ rest := htakes.source_append
  have hlength := htakes.longest.2.2 _ hentry hstands
  obtain rfl : rest = [] := by
    rw [hsplit, List.length_append] at hlength
    exact List.length_eq_zero_iff.mp (by omega)
  rw [List.append_nil] at hsplit
  subst hsplit
  have hcanonical : canonical = name.toList := by
    have hbare := htakes.find?_bare
    rw [hfind] at hbare
    exact (Prod.mk.inj (Option.some.inj hbare)).2.symm
  unfold rewrite
  rw [htakes.rewriteFrom (htakes.source_ne_nil hnamed), hcanonical]
  simp [Piece.result, rewriteFrom]

/-! ## The closing parenthesis -/

theorem Canonical.undashed (hx : x.Canonical) (hname : x.canonicalNames[id]? = some name) :
    Undashed name.toList := by
  obtain ⟨raw, chosen, rfl⟩ := hx id name hname
  exact undashed_canonicalName raw chosen

/-- The closing parenthesis behind a point makes way for the name of a variable that has it for its
raw name. -/
theorem rewriteFrom_closing_named (hx : x.Canonical) (hconsistent : x.Consistent)
    (hnamed : x.rewriteTable.Named) (hbefore : before.all (fun d => !isIdentChar d) = true)
    (hraw : x.rawNames[id]? = some ")") :
    Undashed (x.rewriteTable.rewriteFrom before 0 [')']) := by
  obtain ⟨name, hname⟩ : ∃ name, x.canonicalNames[id]? = some name :=
    mem_iff_exists_getElem?.mp
      ((hconsistent.sameIds id).mpr (mem_iff_exists_getElem?.mpr ⟨_, hraw⟩))
  have hchanged : ")" ≠ name := by
    rintro rfl
    exact absurd ((hx.undashed hname).isNameChar ')' (by decide)) (by decide)
  obtain ⟨entry, hentry, heq⟩ := exists_mem_bare hraw hname hchanged
  have hstands : Stands before entry.1 [')'] := heq ▸ ⟨hbefore, [], rfl, rfl⟩
  obtain ⟨raw', canonical, rest, htakes⟩ :=
    exists_takes_word (not_refers_of_notMem (by decide)) hentry hstands
  have hsource := htakes.source_ne_nil hnamed
  obtain rfl : rest = [] := by
    have hlength := congrArg List.length htakes.source_append
    have hpositive := List.length_pos_iff.mpr hsource
    rw [List.length_append, List.length_singleton] at hlength
    exact List.length_eq_zero_iff.mp (by omega)
  obtain ⟨id', raw, name', -, hname', -, hpair⟩ := mem_bare_rewriteTable htakes.longest.1
  rw [htakes.rewriteFrom hsource, Piece.result, (Prod.mk.inj hpair).2, rewriteFrom, List.append_nil]
  exact hx.undashed hname'

/-! ## References -/

/-- A reference to a raw name comes to the name of the first variable whose raw name it is or is
normalized to; it is closed as it was unless the name ends in a point and a variable is called like
the closing parenthesis. -/
theorem rewrite_referenceTo_iff (hx : x.Canonical) (hconsistent : x.Consistent)
    (hnamed : x.rewriteTable.Named) (hname : IsName r.toList) (hraw : x.rawNames[id]? = some r) :
    x.rewriteTable.rewrite (referenceTo r) = referenceTo c
      ↔ (∃ first raw, x.Lowest (fun raw _ => raw = r ∨ normalizeName raw = r) first raw c)
        ∧ (r.toList.getLast?.any isIdentChar = true
          ∨ ∀ (id : VariableId) (raw : String), x.rawNames[id]? = some raw → raw ≠ ")") := by
  have htext (name : String) :
      (referenceTo name).toList = "var(--".toList ++ (name.toList ++ [')']) := by
    unfold referenceTo
    rw [String.toList_append, String.toList_append, List.append_assoc]
    rfl
  -- Some variable answers for the name: the one that has it, if no other.
  obtain ⟨own, hown⟩ : ∃ name, x.canonicalNames[id]? = some name :=
    mem_iff_exists_getElem?.mp
      ((hconsistent.sameIds id).mpr (mem_iff_exists_getElem?.mpr ⟨_, hraw⟩))
  have hfound : (x.namePairs.find? fun p => p.1 = r ∨ normalizeName p.1 = r).isSome := by
    rw [List.find?_isSome]
    exact ⟨(r, own), mem_namePairs.mpr ⟨id, hraw, hown⟩, by simp⟩
  obtain ⟨⟨raw, answer⟩, hfirst⟩ := Option.isSome_iff_exists.mp hfound
  have hentry : x.rewriteTable.references[String.ofList r.toList]? = some answer := by
    rw [String.ofList_toList, getElem?_references, hfirst, Option.map_some]
  have hspeaks : (∃ first raw, x.Lowest (fun raw _ => raw = r ∨ normalizeName raw = r) first raw c)
      ↔ answer = c := by
    constructor
    · rintro ⟨first, raw', hlowest⟩
      have hsame := (x.find?_namePairs fun raw _ => raw = r ∨ normalizeName raw = r).mpr
        ⟨first, hlowest⟩
      rw [hfirst] at hsame
      exact (Prod.mk.inj (Option.some.inj hsame)).2
    · rintro rfl
      obtain ⟨first, hlowest⟩ :=
        (x.find?_namePairs fun raw _ => raw = r ∨ normalizeName raw = r).mp hfirst
      exact ⟨first, raw, hlowest⟩
  have hrewrite : x.rewriteTable.rewrite (referenceTo r) = referenceTo c
      ↔ answer.toList ++ x.rewriteTable.rewriteFrom r.toList.getLast? 0 [')']
        = c.toList ++ [')'] := by
    unfold rewrite
    rw [← String.toList_inj, String.toList_ofList, htext, htext,
      rewriteFrom_reference none isOpening_plain hname (show NameEnds [')'] by rfl) hentry,
      List.append_assoc, List.append_cancel_left_eq]
  rw [hrewrite, hspeaks]
  by_cases hclosed : r.toList.getLast?.any isIdentChar = true
      ∨ ∀ (id : VariableId) (raw : String), x.rawNames[id]? = some raw → raw ≠ ")"
  · rw [rewriteFrom_closing (hclosed.imp_right sparesClosing_rewriteTable),
      List.append_cancel_right_eq, String.toList_inj, and_iff_left hclosed]
  · refine iff_of_false (fun heq => ?_) fun h => hclosed h.2
    obtain ⟨hlast, hparen⟩ := not_or.mp hclosed
    push Not at hparen
    obtain ⟨id', _, hraw', rfl⟩ := hparen
    have hbefore : r.toList.getLast?.all (fun d => !isIdentChar d) = true := by
      cases hend : r.toList.getLast? with
      | none => rfl
      | some d => simpa [hend] using hlast
    -- What is put in ends in a name character, and the reference in its parenthesis.
    obtain ⟨first, rest, htext', -, hchars⟩ :=
      rewriteFrom_closing_named hx hconsistent hnamed hbefore hraw'
    have hend := congrArg List.getLast? heq
    rw [htext', List.getLast?_append, List.getLast?_append,
      List.getLast?_eq_some_getLast (List.cons_ne_nil first rest)] at hend
    have hmem := List.getLast_mem (List.cons_ne_nil first rest)
    have hlast' : (first :: rest).getLast (List.cons_ne_nil first rest) = ')' := by
      simpa using hend
    rw [hlast'] at hmem
    exact absurd (hchars ')' hmem) (by decide)

/-! ## Both -/

/-- No other name that is changed stands as a word in the name. -/
def Uncrossed (x : TokenIndex) (r : String) : Prop :=
  ∀ (id : VariableId) (raw name : String), x.rawNames[id]? = some raw →
    x.canonicalNames[id]? = some name → raw ≠ name → raw ≠ r →
      ∀ done left : List Char, r.toList = done ++ left → left ≠ [] →
        ¬ Stands done.getLast? raw.toList left

/-- However the raw names of an index are enumerated: a reference to a name comes to the name of the
lowest id that has it just when that is also the first among the names that are normalized to it,
and the reference is closed as it was. The bare name comes to it if it is another name, and if not,
where nothing else stands in the name, just when none of its variables changes it. -/
theorem rewrite_agree {x : TokenIndex} (hx : ∃ calls, x = extendAll calls)
    {entries : List (VariableId × String)} (hentries : entries.Perm x.rawNames.toList)
    (hnonempty : ∀ (id : VariableId) (raw : String), x.rawNames[id]? = some raw → raw ≠ "")
    {id : VariableId} {r c : String} (hname : IsName r.toList)
    (hid : x.Lowest (fun raw _ => raw = r) id r c) :
    ((x.tableOf entries).rewrite (referenceTo r) = referenceTo c
      ↔ (∃ first raw, x.Lowest (fun raw _ => raw = r ∨ normalizeName raw = r) first raw c)
        ∧ (r.toList.getLast?.any isIdentChar = true
          ∨ ∀ (id : VariableId) (raw : String), x.rawNames[id]? = some raw → raw ≠ ")"))
      ∧ (c ≠ r → (x.tableOf entries).rewrite r = c)
      ∧ (c = r → x.Uncrossed r → ((x.tableOf entries).rewrite r = c
        ↔ ∀ (other : VariableId) (name : String), x.rawNames[other]? = some r →
          x.canonicalNames[other]? = some name → name = r)) := by
  obtain ⟨calls, rfl⟩ := hx
  have hnamed := named_rewriteTable hnonempty
  rw [tableOf_eq _ hentries]
  refine ⟨rewrite_referenceTo_iff (canonical_of_extendAll calls) (consistent_of_extendAll calls)
    hnamed hname hid.rawName, fun hne => ?_, fun hsame huncrossed =>
    ⟨fun heq other name hraw hown => ?_, fun hall => ?_⟩⟩
  · have hfirst := (find?_namePairs _ fun raw name => raw = r ∧ raw ≠ name).mpr
      ⟨id, hid.rawName, hid.canonicalName, ⟨rfl, hne.symm⟩,
        fun other raw name hraw hown hkind => hid.lowest other raw name hraw hown hkind.1⟩
    exact rewrite_bareName hnamed hname hfirst
  · -- If one of them changes the name, the first of those is what the name comes to.
    by_contra hchanged
    have hfound : ((extendAll calls).namePairs.find? fun p => p.1 = r ∧ p.1 ≠ p.2).isSome := by
      rw [List.find?_isSome]
      exact ⟨(r, name), mem_namePairs.mpr ⟨other, hraw, hown⟩, by simpa using Ne.symm hchanged⟩
    obtain ⟨⟨raw, answer⟩, hfirst⟩ := Option.isSome_iff_exists.mp hfound
    obtain ⟨rfl, hne⟩ : raw = r ∧ raw ≠ answer := by simpa using List.find?_some hfirst
    rw [rewrite_bareName hnamed hname hfirst] at heq
    exact hne (heq.trans hsame).symm
  · have hfree : (extendAll calls).rewriteTable.FreeOfWords none r.toList [] := by
      intro done left hsplit hleft entry hentry
      obtain ⟨other, raw, name, hraw, hown, hne, rfl⟩ := mem_bare_rewriteTable hentry
      rw [Option.or_none, List.append_nil]
      refine huncrossed other raw name hraw hown hne (fun heq => ?_) done left hsplit hleft
      exact hne (heq.trans (hall other name (heq ▸ hraw) hown).symm)
    unfold rewrite
    rw [rewriteFrom_of_freeOfWords (notMem_of_isName hname) hfree, String.ofList_toList, hsame]

/-- Two variables in the order of their ids, with the names that hooks chose for them. -/
def twoNames (first second : String) (chosen : List (Option String)) : TokenIndex :=
  extendAll [([⟨⟨"v:1"⟩, first, none⟩, ⟨⟨"v:2"⟩, second, none⟩], chosen)]

theorem rewrite_agree_sharedName :
    (∀ (id : VariableId) (raw : String),
      (twoNames "gap" "gap" [some "space", some "room"]).rawNames[id]? = some raw → raw ≠ "")
      ∧ ((twoNames "gap" "gap" [some "space", some "room"]).tableOf
          [(⟨"v:2"⟩, "gap"), (⟨"v:1"⟩, "gap")]).rewrite (referenceTo "gap") = referenceTo "space"
      ∧ ((twoNames "gap" "gap" [some "space", some "room"]).tableOf
          [(⟨"v:2"⟩, "gap"), (⟨"v:1"⟩, "gap")]).rewrite "gap" = "space" := by
  have hlist : (twoNames "gap" "gap" [some "space", some "room"]).rawNames.toList
      = [(⟨"v:1"⟩, "gap"), (⟨"v:2"⟩, "gap")] := by decide +kernel
  have hnonempty : ∀ (id : VariableId) (raw : String),
      (twoNames "gap" "gap" [some "space", some "room"]).rawNames[id]? = some raw → raw ≠ "" := by
    intro id raw hraw
    have hmem := Std.ExtTreeMap.mem_toList_iff_getElem?_eq_some.mpr hraw
    rw [hlist] at hmem
    simp only [List.mem_cons, Prod.mk.injEq, List.not_mem_nil, or_false] at hmem
    rcases hmem with ⟨-, rfl⟩ | ⟨-, rfl⟩ <;> decide
  have hname : IsName "gap".toList :=
    ⟨'g', ['a', 'p'], rfl, by decide, List.all_eq_true.mp (by decide)⟩
  obtain ⟨id, hid⟩ := (find?_namePairs (twoNames "gap" "gap" [some "space", some "room"])
    fun raw _ => raw = "gap").mp (by decide +kernel : _ = some ("gap", "space"))
  obtain ⟨first, hfirst⟩ := (find?_namePairs (twoNames "gap" "gap" [some "space", some "room"])
    fun raw _ => raw = "gap" ∨ normalizeName raw = "gap").mp
      (by decide +kernel : _ = some ("gap", "space"))
  have hentries : [((⟨"v:2"⟩ : VariableId), "gap"), (⟨"v:1"⟩, "gap")].Perm
      (twoNames "gap" "gap" [some "space", some "room"]).rawNames.toList :=
    hlist ▸ List.Perm.swap _ _ []
  obtain ⟨hreference, hbare, -⟩ := rewrite_agree ⟨_, rfl⟩ hentries hnonempty hname hid
  exact ⟨hnonempty, hreference.mpr ⟨⟨first, "gap", hfirst⟩, Or.inl (by decide)⟩, hbare (by decide)⟩

/-- A lower id whose name is normalized to the name; one that leaves the name as it is; a variable
called like the closing parenthesis; and one whose name stands in the name. -/
theorem rewrite_disagree :
    (twoNames "Gap" "gap" [some "x", some "y"]).rewriteTable.rewrite "var(--gap)" = "var(--x)"
      ∧ (twoNames "Gap" "gap" [some "x", some "y"]).rewriteTable.rewrite "gap" = "y"
      ∧ (twoNames "gap" "gap" [some "gap", some "y"]).rewriteTable.rewrite "var(--gap)"
        = "var(--gap)"
      ∧ (twoNames "gap" "gap" [some "gap", some "y"]).rewriteTable.rewrite "gap" = "y"
      ∧ (twoNames "a." ")" []).rewriteTable.rewrite "var(--a.)" = "var(--atoken"
      ∧ (twoNames "a.b" "a" [some "a.b", some "x"]).rewriteTable.rewrite "a.b" = "x.b" := by
  rw [rewriteTable_of_pairwise (x := twoNames "Gap" "gap" [some "x", some "y"])
      (by decide +kernel : _ = [("Gap", "x"), ("gap", "y")]) (by decide),
    rewriteTable_of_pairwise (x := twoNames "gap" "gap" [some "gap", some "y"])
      (by decide +kernel : _ = [("gap", "y")]) (by decide),
    rewriteTable_of_pairwise (x := twoNames "a." ")" [])
      (by decide +kernel : _ = [("a.", "a"), (")", "token")]) (by decide),
    rewriteTable_of_pairwise (x := twoNames "a.b" "a" [some "a.b", some "x"])
      (by decide +kernel : _ = [("a", "x")]) (by decide)]
  decide +kernel

end TokenIndex

end SceneCompiler
