import Mathlib
import SceneCompiler.Proofs.Token.Pieces
/-!
# References that stay whole

A name in a reference may contain points, and the words that bare names are matched against end at
points. So a reference to an unknown name can lose a part of that name to a bare name; and the
letters `var` in front of a parenthesis can be the end of a longer name. Apart from this references
are rewritten as a whole, here for names that are identifiers and not `var` itself.

* `Scans.reaches`: the scan comes to a reference, unless a name that ends in `var` lies across it.
* `Scans.sparesFirst_iff`: a text is written out as it is where no bare name stands in it.
* `references_whole`: what becomes of a reference.
* `references_in_parts`: a reference whose name ends in a bare name, and one behind a longer name.
-/

namespace SceneCompiler.RewriteTable

open TokenExpression

variable {t : RewriteTable} {before : Option Char} {pieces : List Piece}
  {s u w rest more : List Char}

/-! ## Definitions -/

/-- Bare names are identifiers, and none of them is the function of references. -/
def Ordinary (t : RewriteTable) : Prop :=
  ∀ entry ∈ t.bare, IsName entry.1 ∧ entry.1 ≠ "var".toList

/-- No name goes on from the text into a reference behind it: the text ends in no name character, or
no name of the table ends in the function of references. -/
def Clear (t : RewriteTable) (s : List Char) : Prop :=
  s.getLast?.all (fun c => !isNameChar c) = true
    ∨ ((∀ entry ∈ t.bare, ¬ "var".toList <:+ entry.1)
      ∧ ∀ name : List Char, String.ofList name ∈ t.references → ¬ "var".toList <:+ name)

/-- No bare name is put in before the first characters are over. -/
def SparesFirst (n : Nat) (pieces : List Piece) : Prop :=
  ∀ (earlier later : List Piece) (raw canonical : List Char),
    pieces = earlier ++ .word raw canonical :: later → n ≤ (earlier.flatMap Piece.source).length

/-- No bare name stands as a word in the text, with what is in front of it and behind it. -/
def FreeOfWords (t : RewriteTable) (before : Option Char) (s rest : List Char) : Prop :=
  ∀ done left : List Char, s = done ++ left → left ≠ [] → ∀ entry ∈ t.bare,
    ¬ Stands (done.getLast?.or before) entry.1 (left ++ rest)

/-! ## The letters of a reference -/

theorem Ordinary.named (ht : t.Ordinary) : t.Named :=
  fun entry hentry => (ht entry hentry).1.ne_nil

theorem atWordEnd_of_nameEnds (h : NameEnds rest) : atWordEnd rest = true := by
  cases rest with
  | nil => rfl
  | cons c tail =>
    have hc : isNameChar c = false := by simpa [NameEnds] using h
    simpa [atWordEnd] using (Bool.or_eq_false_iff.mp hc).1

/-- Name characters at the start of a reference, up to where no identifier goes on, are the name of
the function. -/
theorem eq_var_of_append (hw : w ≠ []) (hchars : ∀ c ∈ w, isNameChar c = true)
    (hend : atWordEnd rest = true) (h : w ++ rest = "var(".toList ++ more) :
    w = "var".toList := by
  rw [show "var(".toList = ['v', 'a', 'r', '('] from rfl] at h
  rcases w with _ | ⟨a, _ | ⟨b, _ | ⟨c, _ | ⟨d, tail⟩⟩⟩⟩
  · exact absurd rfl hw
  · -- One or two letters: an identifier goes on with the next one.
    obtain ⟨-, rfl⟩ := List.cons.inj h
    exact absurd hend (by simp [atWordEnd, isIdentChar])
  · obtain ⟨-, h⟩ := List.cons.inj h
    obtain ⟨-, rfl⟩ := List.cons.inj h
    exact absurd hend (by simp [atWordEnd, isIdentChar])
  · obtain ⟨ha, h⟩ := List.cons.inj h
    obtain ⟨hb, h⟩ := List.cons.inj h
    rw [ha, hb, (List.cons.inj h).1]
    rfl
  · -- Four letters and more: the fourth is the parenthesis.
    have hd := (List.cons.inj (List.cons.inj (List.cons.inj (List.cons.inj h).2).2).2).1
    exact absurd (hd ▸ hchars d (by simp)) (by decide)

/-- An opening starts with its function. -/
theorem exists_of_isOpening {opening : List Char} (h : IsOpening opening) :
    ∃ more, opening = "var(".toList ++ more := by
  obtain ⟨blanks, -, rfl⟩ := h
  exact ⟨_, rfl⟩

/-- The first letter of an opening comes once in it. -/
theorem eq_nil_of_isOpening (h : IsOpening (u ++ 'v' :: more)) : u = [] := by
  obtain ⟨blanks, hblanks, heq⟩ := h
  cases u with
  | nil => rfl
  | cons c u =>
    obtain ⟨-, htail⟩ := List.cons.inj heq
    have hmem : 'v' ∈ "ar(".toList ++ (blanks ++ "--".toList) := by
      rw [show "ar(".toList ++ (blanks ++ "--".toList) = u ++ 'v' :: more from htail.symm]
      simp
    rcases List.mem_append.mp hmem with hmem | hmem
    · exact absurd hmem (by decide)
    · rcases List.mem_append.mp hmem with hmem | hmem
      · exact absurd (hblanks 'v' hmem) (by decide)
      · exact absurd hmem (by decide)

/-! ## Coming to a reference -/

theorem Ordinary.isNameChar (ht : t.Ordinary) {entry : List Char × List Char}
    (hentry : entry ∈ t.bare) : ∀ c ∈ entry.1, isNameChar c = true :=
  (ht entry hentry).1.isNameChar

/-- No name of the table goes on from a clear text into the function of a reference. -/
theorem Clear.not_append (h : t.Clear u) {c : Char} (hlast : u.getLast? = some c)
    (hc : isNameChar c = true) {name front : List Char}
    (hname : (∃ entry ∈ t.bare, entry.1 = name) ∨ String.ofList name ∈ t.references) :
    name ≠ front ++ "var".toList := by
  rintro rfl
  rcases h with h | ⟨hbare, hreferences⟩
  · simp [hlast, hc] at h
  · rcases hname with ⟨entry, hentry, heq⟩ | hname
    · exact hbare entry hentry ⟨front, heq.symm⟩
    · exact hreferences _ hname ⟨front, rfl⟩

theorem getLast?_of_isOpening {opening : List Char} (h : IsOpening opening) :
    opening.getLast? = some '-' := by
  obtain ⟨blanks, -, rfl⟩ := h
  rw [List.getLast?_append, List.getLast?_append]
  rfl

/-- The function of a reference, where it starts in another one behind its front, is the end of the
other one's name: an opening has its first letter only once. -/
theorem exists_append_var {opening name : List Char} (hopening : IsOpening opening)
    (hname : IsName name) (hend : NameEnds rest) (hu : u ≠ []) (hw : w ≠ [])
    (hsplit : opening ++ name = u ++ w) (hrest : w ++ rest = "var(".toList ++ more) :
    ∃ front, u = opening ++ front ∧ name = front ++ w ∧ w = "var".toList := by
  obtain ⟨front, hfront, hname'⟩ : ∃ front, u = opening ++ front ∧ name = front ++ w := by
    rcases List.append_eq_append_iff.mp hsplit with hinside | ⟨extra, hextra, hw'⟩
    · exact hinside
    · cases extra with
      | nil => exact ⟨[], by simpa using hextra.symm, by simpa using hw'.symm⟩
      | cons d extra =>
        rw [hw'] at hrest
        have hd : d = 'v' := (List.cons.inj hrest).1
        exact absurd (eq_nil_of_isOpening (hd ▸ hextra ▸ hopening)) hu
  refine ⟨front, hfront, hname', eq_var_of_append hw (fun d hd => ?_) (atWordEnd_of_nameEnds hend)
    hrest⟩
  exact hname.isNameChar d (hname' ▸ List.mem_append_right front hd)

/-- A piece that starts in front of a reference ends in front of it. -/
theorem Takes.ends_before (ht : t.Ordinary) (hu : u ≠ []) (hclear : t.Clear u) {p : Piece}
    (h : t.Takes before s p rest) (hs : s = u ++ ("var(".toList ++ more)) :
    ∃ left, u = p.source ++ left ∧ rest = left ++ ("var(".toList ++ more) := by
  rcases List.append_eq_append_iff.mp (hs.symm.trans h.source_append) with
    ⟨w, hsource, hrest⟩ | ⟨left, hleft, hrest⟩
  swap
  · exact ⟨left, hleft, hrest⟩
  by_cases hw : w = []
  · exact ⟨[], by simpa [hw] using hsource.symm, by simpa [hw] using hrest.symm⟩
  exfalso
  obtain ⟨c, hlast⟩ : ∃ c, u.getLast? = some c := ⟨_, List.getLast?_eq_some_getLast hu⟩
  cases h with
  | @reference _ opening name _ canonical start entry =>
    obtain ⟨hopening, hname, hend, -⟩ := referenceStart?_eq_some_iff.mp start
    have hknown : String.ofList name ∈ t.references := mem_iff_exists_getElem?.mpr ⟨_, entry⟩
    obtain ⟨front, hfront, hname', hvar⟩ :=
      exists_append_var hopening hname hend hu hw hsource hrest.symm
    have hc : isNameChar c = true := by
      rw [hfront, List.getLast?_append, getLast?_of_isOpening hopening] at hlast
      cases hfront' : front.getLast? with
      | none =>
        rw [hfront', Option.none_or] at hlast
        obtain rfl := Option.some.inj hlast
        decide
      | some d =>
        rw [hfront', Option.some_or] at hlast
        obtain rfl := Option.some.inj hlast
        exact hname.isNameChar d (hname' ▸ List.mem_append_left w (List.mem_of_getLast? hfront'))
    exact hclear.not_append hlast hc (Or.inr hknown) (hvar ▸ hname')
  | @word _ raw canonical _ earlier later _ entry _ stands split =>
    have hmem : (raw, canonical) ∈ t.bare := entry ▸ List.mem_append_right _ List.mem_cons_self
    have hraw : raw = u ++ w := hsource
    have hw' : ∀ d ∈ w, isNameChar d = true := fun d hd =>
      ht.isNameChar hmem d (hraw ▸ List.mem_append_right u hd)
    obtain ⟨rest', hs', hend⟩ := stands.2
    obtain rfl : rest' = rest := List.append_cancel_left (hs'.symm.trans split)
    have hvar := eq_var_of_append hw hw' hend hrest.symm
    have hc : isNameChar c = true :=
      ht.isNameChar hmem c (hraw ▸ List.mem_append_left w (List.mem_of_getLast? hlast))
    exact hclear.not_append hlast hc (Or.inl ⟨_, hmem, rfl⟩) (hvar ▸ hraw)
  | character _ _ =>
    have hlength := congrArg List.length hsource
    have hu' := List.length_pos_iff.mpr hu
    have hw' := List.length_pos_iff.mpr hw
    simp only [Piece.source, List.length_append, List.length_singleton] at hlength
    omega

theorem Clear.of_append {front left : List Char} (h : t.Clear (front ++ left)) : t.Clear left := by
  rcases h with h | h
  · left
    cases hleft : left.getLast? with
    | none => rfl
    | some c => rwa [List.getLast?_append, hleft, Option.some_or] at h
  · exact Or.inr h

/-- The scan comes to every reference behind a clear text. -/
theorem Scans.reaches (ht : t.Ordinary) (hclear : t.Clear u) (h : t.Scans before s pieces)
    (hs : s = u ++ ("var(".toList ++ more)) :
    ∃ earlier later, pieces = earlier ++ later ∧ earlier.flatMap Piece.source = u := by
  induction h generalizing u with
  | done => exact absurd hs.symm (by simp)
  | @step before s rest p pieces _ takes _ ih =>
    by_cases hu : u = []
    · exact ⟨[], p :: pieces, rfl, hu.symm⟩
    · obtain ⟨left, rfl, hrest⟩ := takes.ends_before ht hu hclear hs
      obtain ⟨earlier, later, rfl, rfl⟩ := ih hclear.of_append hrest
      exact ⟨p :: earlier, later, rfl, List.flatMap_cons⟩

/-! ## Texts without bare names -/

/-- No bare name stands in the function of a reference. -/
theorem Ordinary.not_stands (ht : t.Ordinary) (before : Option Char) (more : List Char)
    {entry : List Char × List Char} (hentry : entry ∈ t.bare) :
    ¬ Stands before entry.1 ("var(".toList ++ more) := by
  rintro ⟨-, rest, hs, hend⟩
  obtain ⟨hname, hne⟩ := ht entry hentry
  exact hne (eq_var_of_append hname.ne_nil hname.isNameChar hend hs.symm)

/-- The references that start in the text start with its last letters. -/
def OnlyAtEnd (t : RewriteTable) (s rest : List Char) : Prop :=
  ∀ done left : List Char, s = done ++ left → left ≠ [] → t.Refers (left ++ rest) →
    left = "var".toList

theorem OnlyAtEnd.of_cons {c : Char} (h : t.OnlyAtEnd (c :: s) rest) : t.OnlyAtEnd s rest :=
  fun done left hs => h (c :: done) left (hs ▸ rfl)

theorem freeOfWords_nil : t.FreeOfWords before [] rest := fun _ _ hs hleft =>
  absurd (List.append_eq_nil_iff.mp hs.symm).2 hleft

theorem freeOfWords_cons {c : Char} : t.FreeOfWords before (c :: s) rest
    ↔ (∀ entry ∈ t.bare, ¬ Stands before entry.1 (c :: (s ++ rest)))
      ∧ t.FreeOfWords (some c) s rest := by
  constructor
  · refine fun h => ⟨h [] (c :: s) rfl (List.cons_ne_nil c s), fun done left hs hleft => ?_⟩
    have hplace := h (c :: done) left (hs ▸ rfl) hleft
    rwa [getLast?_cons_or] at hplace
  · rintro ⟨hfirst, hrest⟩ done left hs hleft
    cases done with
    | nil =>
      obtain rfl : left = c :: s := hs.symm
      exact hfirst
    | cons d done =>
      obtain ⟨rfl, rfl⟩ := List.cons.inj hs
      rw [getLast?_cons_or]
      exact hrest done left rfl hleft

theorem sparesFirst_zero : SparesFirst 0 pieces :=
  fun _ _ _ _ _ => Nat.zero_le _

/-- A piece that is no word counts with its length. -/
theorem sparesFirst_cons {n : Nat} {p : Piece} (hp : ∀ raw canonical, p ≠ .word raw canonical) :
    SparesFirst n (p :: pieces) ↔ SparesFirst (n - p.source.length) pieces := by
  constructor
  · rintro h earlier later raw canonical rfl
    have hlength := h (p :: earlier) later raw canonical rfl
    rw [List.flatMap_cons, List.length_append] at hlength
    omega
  · intro h earlier later raw canonical heq
    cases earlier with
    | nil => exact absurd (List.cons.inj heq).1 (hp raw canonical)
    | cons q earlier =>
      obtain ⟨rfl, hpieces⟩ := List.cons.inj heq
      have hlength := h earlier later raw canonical hpieces
      rw [List.flatMap_cons, List.length_append]
      omega

/-- The function of a reference is free of words. -/
theorem Ordinary.freeOfWords_var (ht : t.Ordinary)
    (h : "var".toList ++ rest = "var(".toList ++ more) :
    t.FreeOfWords before "var".toList rest := by
  have hinside {c : Char} (hc : isIdentChar c = true) (name s : List Char) :
      ¬ Stands (some c) name s := fun hstands => by simpa [hc] using hstands.1
  refine freeOfWords_cons.mpr ⟨fun entry hentry => ?_, freeOfWords_cons.mpr
    ⟨fun _ _ => hinside (by decide) _ _, freeOfWords_cons.mpr
    ⟨fun _ _ => hinside (by decide) _ _, freeOfWords_nil⟩⟩⟩
  have hplace := ht.not_stands before more hentry
  rw [← h] at hplace
  exact hplace

/-- The text is written out as it is just when no bare name stands in it. A reference that starts
with its last letters leaves them alone too. -/
theorem Scans.sparesFirst_iff (ht : t.Ordinary) (h : t.Scans before s pieces)
    (hs : s = u ++ rest) (honly : t.OnlyAtEnd u rest) :
    (SparesFirst u.length pieces ↔ t.FreeOfWords before u rest)
      ∧ (t.FreeOfWords before u rest →
        ∃ others, pieces.flatMap Piece.result = u ++ others) := by
  induction h generalizing u with
  | done =>
    obtain rfl := (List.append_eq_nil_iff.mp hs.symm).1
    exact ⟨iff_of_true sparesFirst_zero freeOfWords_nil, fun _ => ⟨_, rfl⟩⟩
  | @step before s left p pieces _ takes _ ih =>
    cases u with
    | nil => exact ⟨iff_of_true sparesFirst_zero freeOfWords_nil, fun _ => ⟨_, rfl⟩⟩
    | cons c u =>
      cases takes with
      | @reference _ opening name _ canonical start entry =>
        obtain ⟨hopening, -, -, hsplit⟩ := referenceStart?_eq_some_iff.mp start
        obtain ⟨more, hmore⟩ := exists_of_isOpening hopening
        have hvar : c :: u = "var".toList := by
          refine honly [] _ rfl (List.cons_ne_nil c u) ?_
          exact hs ▸ ⟨_, _, _, start, mem_iff_exists_getElem?.mpr ⟨_, entry⟩⟩
        have hfree : t.FreeOfWords before (c :: u) rest := by
          rw [hvar] at hs ⊢
          have htext : "var".toList ++ rest = "var(".toList ++ (more ++ (name ++ left)) := by
            rw [← hs, hsplit, hmore, List.append_assoc]
          exact ht.freeOfWords_var htext
        have hshort : (c :: u).length - (opening ++ name).length = 0 := by
          rw [hvar, hmore]
          simp
        refine ⟨iff_of_true ((sparesFirst_cons (by simp)).mpr ?_) hfree, fun _ => ?_⟩
        · rw [Piece.source, hshort]
          exact sparesFirst_zero
        · rw [hvar, List.flatMap_cons, Piece.result, hmore]
          exact ⟨_, by rfl⟩
      | @word _ raw canonical _ earlier later _ entry _ stands split =>
        have hmem : (raw, canonical) ∈ t.bare := entry ▸ List.mem_append_right _ List.mem_cons_self
        have hnot : ¬ t.FreeOfWords before (c :: u) rest := fun hfree =>
          (freeOfWords_cons.mp hfree).1 _ hmem (by rw [← List.cons_append, ← hs]; exact stands)
        refine ⟨iff_of_false (fun hspares => ?_) hnot, fun hfree => absurd hfree hnot⟩
        exact absurd (hspares [] pieces raw canonical rfl) (by simp)
      | @character d _ _ noWord =>
        obtain ⟨rfl, hleft⟩ : d = c ∧ left = u ++ rest := by simpa using hs
        obtain ⟨hiff, hresult⟩ := ih hleft honly.of_cons
        rw [sparesFirst_cons (by simp), freeOfWords_cons, ← hleft]
        refine ⟨⟨fun h => ⟨noWord, hiff.mp h⟩, fun h => hiff.mpr h.2⟩, fun h => ?_⟩
        obtain ⟨others, hothers⟩ := hresult h.2
        exact ⟨others, by rw [List.flatMap_cons, hothers]; rfl⟩

/-! ## References -/

/-- In a reference to an unknown name a reference to a known one starts at most with its last
letters. -/
theorem onlyAtEnd_of_unknown {opening name : List Char} (hopening : IsOpening opening)
    (hname : IsName name) (hend : NameEnds rest) (hunknown : String.ofList name ∉ t.references) :
    t.OnlyAtEnd (opening ++ name) rest := by
  rintro done left hsplit hleft ⟨opening', name', rest', hstart, hknown⟩
  obtain ⟨hopening', -, -, heq⟩ := referenceStart?_eq_some_iff.mp hstart
  by_cases hdone : done = []
  · -- From the front it is the unknown name itself that is read.
    have hwhole : referenceStart? (left ++ rest) = some (opening, name, rest) := by
      refine referenceStart?_eq_some_iff.mpr ⟨hopening, hname, hend, ?_⟩
      rw [show left = opening ++ name by simpa [hdone] using hsplit.symm, List.append_assoc]
    rw [hwhole] at hstart
    obtain ⟨-, rfl, -⟩ : _ ∧ _ ∧ _ := by simpa using hstart
    exact absurd hknown hunknown
  · obtain ⟨more, hmore⟩ := exists_of_isOpening hopening'
    rw [hmore, List.append_assoc] at heq
    exact (exists_append_var hopening hname hend hdone hleft hsplit heq).choose_spec.2.2

/-- The pieces start with a reference whose opening stays, with the text in place of its name; no
bare name is put in for a part of it. -/
def WritesReference (pieces : List Piece) (opening name text : List Char) : Prop :=
  SparesFirst (opening ++ name).length pieces
    ∧ ∃ others, pieces.flatMap Piece.result = opening ++ (text ++ others)

theorem ordinary_rewriteTable {x : TokenIndex}
    (hnames : ∀ (id : VariableId) (raw : String), x.rawNames[id]? = some raw →
      IsName raw.toList ∧ raw ≠ "var") : x.rewriteTable.Ordinary := by
  intro entry hentry
  obtain ⟨id, raw, name, hraw, -, -, rfl⟩ := TokenIndex.mem_bare_rewriteTable hentry
  obtain ⟨hname, hne⟩ := hnames id raw hraw
  exact ⟨hname, fun h => hne (String.toList_inj.mp h)⟩

/-- The scan comes to a reference behind a clear text. If its name is in the table it is written
with the canonical name; if not, it is written as it is just when no bare name stands in it. -/
theorem references_whole (x : TokenIndex)
    (hnames : ∀ (id : VariableId) (raw : String), x.rawNames[id]? = some raw →
      IsName raw.toList ∧ raw ≠ "var")
    {value : String} {pre opening name rest : List Char}
    (hvalue : value.toList = pre ++ (opening ++ (name ++ rest)))
    (hstart : referenceStart? (opening ++ (name ++ rest)) = some (opening, name, rest))
    (hclear : x.rewriteTable.Clear pre) :
    ∃ earlier later : List Piece,
      x.rewriteTable.Scans none value.toList (earlier ++ later)
        ∧ earlier.flatMap Piece.source = pre
        ∧ x.rewriteTable.rewrite value
          = String.ofList (earlier.flatMap Piece.result ++ later.flatMap Piece.result)
        ∧ (∀ canonical : String,
          x.rewriteTable.references[String.ofList name]? = some canonical →
            WritesReference later opening name canonical.toList)
        ∧ (String.ofList name ∉ x.rewriteTable.references →
          (WritesReference later opening name name
            ↔ x.rewriteTable.FreeOfWords pre.getLast? (opening ++ name) rest)) := by
  have hordinary := ordinary_rewriteTable hnames
  obtain ⟨hopening, hname, hend, -⟩ := referenceStart?_eq_some_iff.mp hstart
  obtain ⟨more, hmore⟩ := exists_of_isOpening hopening
  obtain ⟨pieces, hscans⟩ := exists_scans hordinary.named none value.toList
  have htext : value.toList = pre ++ ("var(".toList ++ (more ++ (name ++ rest))) := by
    rw [hvalue, hmore, List.append_assoc]
  obtain ⟨earlier, later, rfl, hpre⟩ := hscans.reaches hordinary hclear htext
  have hlater : x.rewriteTable.Scans pre.getLast? (opening ++ (name ++ rest)) later := by
    have hbehind := hscans.of_append
    have hsource := hscans.source
    rw [List.flatMap_append, hpre, hvalue] at hsource
    rwa [hpre, Option.or_none, ← List.append_cancel_left hsource] at hbehind
  refine ⟨earlier, later, hscans, hpre, ?_, fun canonical hentry => ?_, fun hunknown => ?_⟩
  · unfold rewrite
    rw [hscans.rewriteFrom hordinary.named, List.flatMap_append]
  · obtain ⟨p, _, others, rfl, htakes⟩ := hlater.exists_takes
      (List.append_ne_nil_of_right_ne_nil _ (List.append_ne_nil_of_left_ne_nil hname.ne_nil _))
    obtain ⟨rfl, -⟩ := htakes.unique (.reference hstart hentry)
    refine ⟨(sparesFirst_cons (by simp)).mpr ?_, _, by
      rw [List.flatMap_cons, Piece.result, List.append_assoc]⟩
    rw [Piece.source, Nat.sub_self]
    exact sparesFirst_zero
  · obtain ⟨hiff, hresult⟩ := hlater.sparesFirst_iff hordinary (List.append_assoc _ _ _).symm
      (onlyAtEnd_of_unknown hopening hname hend hunknown)
    refine ⟨fun h => hiff.mp h.1, fun hfree => ⟨hiff.mpr hfree, ?_⟩⟩
    obtain ⟨others, hothers⟩ := hresult hfree
    exact ⟨others, hothers.trans (List.append_assoc _ _ _)⟩

/-- One variable, which a hook gives another name. -/
def renamed (raw name : String) : TokenIndex :=
  .build [⟨⟨"v:1"⟩, raw, none⟩] [some name]

theorem references_whole_beside_word :
    (∀ (id : VariableId) (raw : String), (renamed "gap" "space").rawNames[id]? = some raw →
      IsName raw.toList ∧ raw ≠ "var")
      ∧ (renamed "gap" "space").rewriteTable.Clear "gap ".toList
      ∧ ∃ earlier later : List Piece,
        (renamed "gap" "space").rewriteTable.rewrite "gap var(--gap)"
          = String.ofList (earlier.flatMap Piece.result ++ later.flatMap Piece.result)
        ∧ WritesReference later "var(--".toList "gap".toList "space".toList := by
  have hnames : ∀ (id : VariableId) (raw : String),
      (renamed "gap" "space").rawNames[id]? = some raw → IsName raw.toList ∧ raw ≠ "var" := by
    intro id raw hraw
    have hlist : (renamed "gap" "space").rawNames.toList = [(⟨"v:1"⟩, "gap")] := by decide +kernel
    have hmem := Std.ExtTreeMap.mem_toList_iff_getElem?_eq_some.mpr hraw
    rw [hlist, List.mem_singleton] at hmem
    obtain ⟨-, rfl⟩ := Prod.mk.inj hmem
    exact ⟨⟨'g', ['a', 'p'], rfl, by decide, List.all_eq_true.mp (by decide)⟩, by decide⟩
  have hclear : (renamed "gap" "space").rewriteTable.Clear "gap ".toList := Or.inl (by decide)
  have hvalue : "gap var(--gap)".toList
      = "gap ".toList ++ ("var(--".toList ++ ("gap".toList ++ [')'])) := rfl
  obtain ⟨earlier, later, -, -, hrewrite, hknown, -⟩ :=
    references_whole (renamed "gap" "space") hnames hvalue (by rfl) hclear
  exact ⟨hnames, hclear, earlier, later, hrewrite, hknown "space" (by decide +kernel)⟩

/-- The end of an unknown name, all of an unknown name with its dashes, and a reference behind a
longer name that ends in its function. -/
theorem references_in_parts :
    (referenceStart? "var(--foo.gap)".toList = some ("var(--".toList, "foo.gap".toList, [')'])
        ∧ "foo.gap" ∉ (renamed "gap" "space").rewriteTable.references
        ∧ (renamed "gap" "space").rewriteTable.rewrite "var(--foo.gap)" = "var(--foo.space)")
      ∧ (referenceStart? "var(--Foo)".toList = some ("var(--".toList, "Foo".toList, [')'])
        ∧ "Foo" ∉ (renamed "--Foo" "foo").rewriteTable.references
        ∧ (renamed "--Foo" "foo").rewriteTable.rewrite "var(--Foo)" = "var(foo)")
      ∧ (referenceStart? "var(--my-var)".toList = some ("var(--".toList, "my-var".toList, [')'])
        ∧ (renamed "my-var" "x").rewriteTable.references["my-var"]? = some "x"
        ∧ (renamed "my-var" "x").rewriteTable.rewrite "my-var(--my-var)" = "x(--my-var)") := by
  rw [TokenIndex.rewriteTable_of_pairwise (x := renamed "gap" "space")
      (by decide +kernel : _ = [("gap", "space")]) (by decide),
    TokenIndex.rewriteTable_of_pairwise (x := renamed "--Foo" "foo")
      (by decide +kernel : _ = [("--Foo", "foo")]) (by decide),
    TokenIndex.rewriteTable_of_pairwise (x := renamed "my-var" "x")
      (by decide +kernel : _ = [("my-var", "x")]) (by decide)]
  decide +kernel

end SceneCompiler.RewriteTable
