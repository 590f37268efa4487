import Mathlib
import SceneCompiler.Proofs.Token.Table
/-!
# Pieces of a rewritten text

The scan of a text takes one piece after the other from its front: a reference to a name of the
table, else the first bare name that stands there as a word, else one character. What it takes
depends on the text and on the one character in front of it, never on what has been put in. The
scan is given here as it goes, without a guard against empty names: with one it may take nothing
and come to no end.

* `exists_scans`, `Scans.unique`: with no empty name among the bare ones every text has one scan.
* `Scans.rewriteFrom`: rewriting puts together what the pieces come to.
* `Takes.longest`: a word that is replaced is the longest bare name there.
* `Scans.separate`: a character that no reference and no bare name can contain divides the scan.
* `rewrite_pieces`: all of that for the table of an index.
-/

namespace SceneCompiler.RewriteTable

open TokenExpression

variable {t : RewriteTable} {before : Option Char} {s rest : List Char}

/-! ## Definitions -/

/-- What the scan takes at once. -/
inductive Piece where
  | reference (opening name canonical : List Char)
  | word (raw canonical : List Char)
  | character (c : Char)

namespace Piece

/-- The text that a piece takes. -/
def source : Piece → List Char
  | reference opening name _ => opening ++ name
  | word raw _ => raw
  | character c => [c]

/-- The text that it comes to. -/
def result : Piece → List Char
  | reference opening _ canonical => opening ++ canonical
  | word _ canonical => canonical
  | character c => [c]

end Piece

/-- The text starts with the name as a word: no identifier goes on in front of it or behind it. -/
def Stands (before : Option Char) (name s : List Char) : Prop :=
  before.all (fun c => !isIdentChar c) = true ∧ ∃ rest, s = name ++ rest ∧ atWordEnd rest = true

/-- The text starts with a reference to a name of the table. -/
def Refers (t : RewriteTable) (s : List Char) : Prop :=
  ∃ opening name rest, referenceStart? s = some (opening, name, rest)
    ∧ String.ofList name ∈ t.references

/-- The piece that the scan takes from the front of a text, and what it leaves. -/
inductive Takes (t : RewriteTable) (before : Option Char) :
    List Char → Piece → List Char → Prop
  | reference {s opening name rest : List Char} {canonical : String}
      (start : referenceStart? s = some (opening, name, rest))
      (entry : t.references[String.ofList name]? = some canonical) :
      Takes t before s (.reference opening name canonical.toList) rest
  | word {s raw canonical rest : List Char} {earlier later : List (List Char × List Char)}
      (noReference : ¬ t.Refers s)
      (entry : t.bare = earlier ++ (raw, canonical) :: later)
      (first : ∀ other ∈ earlier, ¬ Stands before other.1 s)
      (stands : Stands before raw s) (split : s = raw ++ rest) :
      Takes t before s (.word raw canonical) rest
  | character {c : Char} {s : List Char}
      (noReference : ¬ t.Refers (c :: s))
      (noWord : ∀ entry ∈ t.bare, ¬ Stands before entry.1 (c :: s)) :
      Takes t before (c :: s) (.character c) s

/-- The pieces of a scan that comes to the end of the text. -/
inductive Scans (t : RewriteTable) : Option Char → List Char → List Piece → Prop
  | done {before : Option Char} : Scans t before [] []
  | step {before : Option Char} {s rest : List Char} {p : Piece} {pieces : List Piece}
      (more : s ≠ []) (takes : Takes t before s p rest)
      (scans : Scans t (p.source.getLast?.or before) rest pieces) :
      Scans t before s (p :: pieces)

/-- No bare name is empty. -/
def Named (t : RewriteTable) : Prop :=
  ∀ entry ∈ t.bare, entry.1 ≠ []

/-! ## One piece -/

theorem startsWithName_iff {name : List Char} :
    startsWithName name s = true
      ↔ name ≠ [] ∧ ∃ rest, s = name ++ rest ∧ atWordEnd rest = true := by
  unfold startsWithName
  split
  · next rest hrest =>
    rw [Bool.and_eq_true, Bool.not_eq_true', List.isEmpty_eq_false_iff]
    have hs := stripStart?_eq_some_iff.mp hrest
    constructor
    · rintro ⟨hname, hend⟩
      exact ⟨hname, rest, hs, hend⟩
    · rintro ⟨hname, rest', hs', hend⟩
      have heq : rest' = rest := List.append_cancel_left (hs'.symm.trans hs)
      exact ⟨hname, heq ▸ hend⟩
  · next hnone =>
    refine ⟨nofun, ?_⟩
    rintro ⟨-, rest, hs, -⟩
    rw [stripStart?_eq_some_iff.mpr hs] at hnone
    exact nomatch hnone

theorem Takes.source_append {p : Piece} (h : t.Takes before s p rest) : s = p.source ++ rest := by
  cases h with
  | reference start _ =>
    rw [(referenceStart?_eq_some_iff.mp start).2.2.2, ← List.append_assoc]
    rfl
  | word _ _ _ _ split => exact split
  | character _ _ => rfl

theorem Takes.source_ne_nil {p : Piece} (ht : t.Named) (h : t.Takes before s p rest) :
    p.source ≠ [] := by
  cases h with
  | reference start _ =>
    exact List.append_ne_nil_of_right_ne_nil _ (referenceStart?_eq_some_iff.mp start).2.1.ne_nil
  | word _ entry _ _ _ => exact ht _ (entry ▸ List.mem_append_right _ List.mem_cons_self)
  | character _ _ => exact List.cons_ne_nil _ _

/-- Where a bare name stands and no reference, a word is taken. -/
theorem exists_takes_word (href : ¬ t.Refers s) {entry : List Char × List Char}
    (hentry : entry ∈ t.bare) (hstands : Stands before entry.1 s) :
    ∃ raw canonical rest, t.Takes before s (.word raw canonical) rest := by
  classical
  have hfound : (t.bare.find? fun e => Stands before e.1 s).isSome := by
    rw [List.find?_isSome]
    exact ⟨entry, hentry, by simpa using hstands⟩
  obtain ⟨first, hfirst⟩ := Option.isSome_iff_exists.mp hfound
  obtain ⟨hstands', earlier, later, hbare, hearlier⟩ := List.find?_eq_some_iff_append.mp hfirst
  have hstands'' := of_decide_eq_true hstands'
  obtain ⟨rest, hsplit, -⟩ := hstands''.2
  exact ⟨_, _, rest, .word href hbare (by simpa using hearlier) hstands'' hsplit⟩

/-- Something can be taken from every text that is not at its end. -/
theorem exists_takes (t : RewriteTable) (before : Option Char) (hs : s ≠ []) :
    ∃ p rest, t.Takes before s p rest := by
  by_cases href : t.Refers s
  · obtain ⟨opening, name, rest, hstart, hname⟩ := href
    obtain ⟨canonical, hentry⟩ := mem_iff_exists_getElem?.mp hname
    exact ⟨_, rest, .reference hstart hentry⟩
  · by_cases hword : ∃ entry ∈ t.bare, Stands before entry.1 s
    · obtain ⟨entry, hentry, hstands⟩ := hword
      obtain ⟨raw, canonical, rest, htakes⟩ := exists_takes_word href hentry hstands
      exact ⟨_, rest, htakes⟩
    · obtain ⟨c, tail, rfl⟩ := List.exists_cons_of_ne_nil hs
      exact ⟨_, tail, .character href fun entry hentry hstands => hword ⟨entry, hentry, hstands⟩⟩

/-- The first entry of a kind is the same in every division of a list in front of one. -/
theorem eq_of_first {α : Type} (kind : α → Prop) {a b : α} {earlier later earlier' later' : List α}
    (heq : earlier ++ a :: later = earlier' ++ b :: later') (ha : kind a) (hb : kind b)
    (hearlier : ∀ c ∈ earlier, ¬ kind c) (hearlier' : ∀ c ∈ earlier', ¬ kind c) : a = b := by
  classical
  have hfind : (earlier ++ a :: later).find? (fun c => kind c) = some a :=
    List.find?_eq_some_iff_append.mpr ⟨by simpa, earlier, later, rfl, by simpa using hearlier⟩
  have hfind' : (earlier' ++ b :: later').find? (fun c => kind c) = some b :=
    List.find?_eq_some_iff_append.mpr ⟨by simpa, earlier', later', rfl, by simpa using hearlier'⟩
  rw [heq, hfind'] at hfind
  exact (Option.some.inj hfind).symm

/-- There is only one piece to take. -/
theorem Takes.unique {p p' : Piece} {rest' : List Char} (h : t.Takes before s p rest)
    (h' : t.Takes before s p' rest') : p = p' ∧ rest = rest' := by
  have hpiece : p = p' := by
    cases h with
    | reference start entry =>
      cases h' with
      | reference start' entry' =>
        rw [start] at start'
        obtain ⟨rfl, rfl, -⟩ : _ ∧ _ ∧ _ := by simpa using start'
        rw [entry] at entry'
        rw [Option.some.inj entry']
      | word noReference =>
        exact absurd ⟨_, _, _, start, mem_iff_exists_getElem?.mpr ⟨_, entry⟩⟩ noReference
      | character noReference =>
        exact absurd ⟨_, _, _, start, mem_iff_exists_getElem?.mpr ⟨_, entry⟩⟩ noReference
    | word noReference entry first stands split =>
      cases h' with
      | reference start' entry' =>
        exact absurd ⟨_, _, _, start', mem_iff_exists_getElem?.mpr ⟨_, entry'⟩⟩ noReference
      | word _ entry' first' stands' _ =>
        have heq := eq_of_first (fun e => Stands before e.1 s) (entry.symm.trans entry')
          stands stands' first first'
        obtain ⟨rfl, rfl⟩ := Prod.mk.inj heq
        rfl
      | character _ noWord => 
        exact absurd stands (noWord _ (entry ▸ List.mem_append_right _ List.mem_cons_self))
    | character noReference noWord =>
      cases h' with
      | reference start' entry' =>
        exact absurd ⟨_, _, _, start', mem_iff_exists_getElem?.mpr ⟨_, entry'⟩⟩ noReference
      | word _ entry' _ stands' _ =>
        exact absurd stands' (noWord _ (entry' ▸ List.mem_append_right _ List.mem_cons_self))
      | character _ _ => rfl
  subst hpiece
  exact ⟨rfl, List.append_cancel_left (h.source_append.symm.trans h'.source_append)⟩

/-- Without a reference at the front the bare names decide. -/
theorem replacement?_of_not_refers (h : ¬ t.Refers s) :
    t.replacement? before s = if before.all (fun c => !isIdentChar c)
      then (t.bare.find? fun entry => startsWithName entry.1 s).map
        fun entry => (entry.2, entry.1.length)
      else none := by
  unfold replacement?
  cases hstart : referenceStart? s with
  | none => rfl
  | some start =>
    have hnone : t.references[String.ofList start.2.1]? = none :=
      Std.ExtTreeMap.getElem?_eq_none fun hname => h ⟨_, _, _, hstart, hname⟩
    simp only [Option.bind_eq_bind, Option.bind_some, hnone]
    rfl

/-- Rewriting puts in what the piece comes to and goes on behind it. -/
theorem Takes.rewriteFrom {p : Piece} (h : t.Takes before s p rest) (hp : p.source ≠ []) :
    t.rewriteFrom before 0 s
      = p.result ++ t.rewriteFrom (p.source.getLast?.or before) 0 rest := by
  cases h with
  | reference start entry =>
    obtain ⟨hopening, hname, hend, rfl⟩ := referenceStart?_eq_some_iff.mp start
    have hreplacement := replacement?_reference before hopening hname hend entry
    rw [← List.append_assoc, ← List.length_append] at hreplacement
    rw [← List.append_assoc]
    exact rewriteFrom_replacement hp hreplacement
  | @word s raw canonical rest earlier later noReference entry first stands split =>
    subst split
    have hfind : t.bare.find? (fun e => startsWithName e.1 (raw ++ rest))
        = some (raw, canonical) := by
      rw [List.find?_eq_some_iff_append]
      refine ⟨startsWithName_iff.mpr ⟨hp, stands.2⟩, earlier, later, entry, fun other hother => ?_⟩
      rw [Bool.not_eq_true', Bool.eq_false_iff]
      exact fun hstarts => first other hother ⟨stands.1, (startsWithName_iff.mp hstarts).2⟩
    refine rewriteFrom_replacement hp ?_
    rw [replacement?_of_not_refers noReference, if_pos stands.1, hfind]
    rfl
  | @character c _ noReference noWord =>
    have hnone : t.replacement? before (c :: rest) = none := by
      rw [replacement?_of_not_refers noReference]
      split
      · next hbefore =>
        rw [Option.map_eq_none_iff, List.find?_eq_none]
        intro entry hentry hstarts
        exact noWord entry hentry ⟨hbefore, (startsWithName_iff.mp hstarts).2⟩
      · rfl
    rw [RewriteTable.rewriteFrom, hnone]
    rfl

/-- A word comes to what the first entry of its name says. -/
theorem Takes.find?_bare {raw canonical : List Char}
    (h : t.Takes before s (.word raw canonical) rest) :
    t.bare.find? (fun entry => entry.1 = raw) = some (raw, canonical) := by
  cases h with
  | @word _ _ _ _ earlier later _ entry first stands _ =>
    refine List.find?_eq_some_iff_append.mpr ⟨by simp, earlier, later, entry, ?_⟩
    intro other hother
    have hne : other.1 ≠ raw := fun heq => first other hother (heq ▸ stands)
    simpa using hne

/-! ## Scans -/

/-- With no empty name every text has a scan: each piece leaves a shorter text. -/
theorem exists_scans (ht : t.Named) (before : Option Char) (s : List Char) :
    ∃ pieces, t.Scans before s pieces := by
  induction hn : s.length using Nat.strong_induction_on generalizing before s with
  | h n ih =>
    by_cases hmore : s = []
    · exact ⟨[], hmore ▸ .done⟩
    · obtain ⟨p, rest, htakes⟩ := exists_takes t before hmore
      have hlength := congrArg List.length htakes.source_append
      have hpositive := List.length_pos_iff.mpr (htakes.source_ne_nil ht)
      rw [List.length_append] at hlength
      obtain ⟨pieces, hscans⟩ := ih rest.length (by omega) (p.source.getLast?.or before) rest rfl
      exact ⟨p :: pieces, .step hmore htakes hscans⟩

theorem Scans.unique {pieces pieces' : List Piece} (h : t.Scans before s pieces)
    (h' : t.Scans before s pieces') : pieces = pieces' := by
  induction h generalizing pieces' with
  | done =>
    cases h' with
    | done => rfl
    | step more _ _ => exact absurd rfl more
  | step more takes _ ih =>
    cases h' with
    | done => exact absurd rfl more
    | step _ takes' scans' =>
      obtain ⟨rfl, rfl⟩ := takes.unique takes'
      rw [ih scans']

theorem Scans.takes {p : Piece} {pieces : List Piece} (h : t.Scans before s (p :: pieces)) :
    ∃ rest, t.Takes before s p rest ∧ t.Scans (p.source.getLast?.or before) rest pieces := by
  cases h with
  | step _ takes scans => exact ⟨_, takes, scans⟩

theorem Scans.exists_takes {pieces : List Piece} (h : t.Scans before s pieces) (hs : s ≠ []) :
    ∃ p rest others, pieces = p :: others ∧ t.Takes before s p rest := by
  cases h with
  | done => exact absurd rfl hs
  | step _ takes _ => exact ⟨_, _, _, rfl, takes⟩

theorem Scans.source {pieces : List Piece} (h : t.Scans before s pieces) :
    s = pieces.flatMap Piece.source := by
  induction h with
  | done => rfl
  | step _ takes _ ih => rw [takes.source_append, ih, List.flatMap_cons]

/-- Rewriting puts together what the pieces come to. -/
theorem Scans.rewriteFrom (ht : t.Named) {pieces : List Piece} (h : t.Scans before s pieces) :
    t.rewriteFrom before 0 s = pieces.flatMap Piece.result := by
  induction h with
  | done => rfl
  | step _ takes _ ih => rw [takes.rewriteFrom (takes.source_ne_nil ht), ih, List.flatMap_cons]

/-- What is scanned behind some pieces is the scan of the rest of the text. -/
theorem Scans.of_append {earlier later : List Piece} (h : t.Scans before s (earlier ++ later)) :
    t.Scans ((earlier.flatMap Piece.source).getLast?.or before) (later.flatMap Piece.source)
      later := by
  induction earlier generalizing before s with
  | nil => exact h.source ▸ h
  | cons p earlier ih =>
    cases h with
    | step _ _ scans =>
      have hlast : ((p :: earlier).flatMap Piece.source).getLast?.or before
          = (earlier.flatMap Piece.source).getLast?.or (p.source.getLast?.or before) := by
        rw [List.flatMap_cons, List.getLast?_append, Option.or_assoc]
      rw [hlast]
      exact ih scans

/-! ## Dividing characters -/

/-- The character can lie in no reference up to the end of its name, and in no bare name. -/
structure Divides (t : RewriteTable) (c : Char) : Prop where
  notName : isNameChar c = false
  notOpening : c ≠ '(' ∧ isBlank c = false
  notBare : ∀ entry ∈ t.bare, c ∉ entry.1

variable {c : Char} {u v : List Char}

/-- A text without the character that starts another one ends in front of the character there. -/
theorem exists_append_of_notMem {front : List Char} (hc : c ∉ front)
    (h : u ++ c :: v = front ++ rest) : ∃ left, u = front ++ left ∧ rest = left ++ c :: v := by
  rcases List.append_eq_append_iff.mp h with ⟨extra, hextra, hrest⟩ | ⟨left, hleft, hrest⟩
  · cases extra with
    | nil => exact ⟨[], by simpa using hextra.symm, by simpa using hrest.symm⟩
    | cons d extra =>
      have hd : c = d := (List.cons.inj hrest).1
      exact absurd (by simp [hextra, hd]) hc
  · exact ⟨left, hleft, hrest⟩

theorem nameEnds_append_cons (hc : isNameChar c = false) :
    NameEnds (rest ++ c :: v) ↔ NameEnds rest := by
  cases rest with
  | nil => simp [NameEnds, hc]
  | cons d rest => rfl

theorem atWordEnd_append_cons (hc : isNameChar c = false) :
    atWordEnd (rest ++ c :: v) = atWordEnd rest := by
  cases rest with
  | nil =>
    rw [isNameChar, Bool.or_eq_false_iff] at hc
    simp [atWordEnd, hc.1]
  | cons d rest => rfl

theorem Divides.notMem_reference (hc : t.Divides c) {opening name : List Char}
    (hopening : IsOpening opening) (hname : IsName name) : c ∉ opening ++ name := by
  obtain ⟨blanks, hblanks, rfl⟩ := hopening
  intro hmem
  rcases List.mem_append.mp hmem with hmem | hmem
  · rcases List.mem_append.mp hmem with hmem | hmem
    · have hall : "var(".toList.all (fun d => isNameChar d || d == '(') = true := by decide
      simpa [hc.notName, hc.notOpening.1] using List.all_eq_true.mp hall c hmem
    · rcases List.mem_append.mp hmem with hmem | hmem
      · simpa [hc.notOpening.2] using hblanks c hmem
      · have hall : "--".toList.all isNameChar = true := by decide
        simpa [hc.notName] using List.all_eq_true.mp hall c hmem
  · simpa [hc.notName] using hname.isNameChar c hmem

/-- A reference in front of the character is the same with it and without it. -/
theorem Divides.referenceStart? (hc : t.Divides c) {opening name rest' : List Char} :
    referenceStart? (u ++ c :: v) = some (opening, name, rest')
      ↔ ∃ rest, referenceStart? u = some (opening, name, rest) ∧ rest' = rest ++ c :: v := by
  simp only [referenceStart?_eq_some_iff]
  constructor
  · rintro ⟨hopening, hname, hend, heq⟩
    rw [← List.append_assoc] at heq
    obtain ⟨left, rfl, rfl⟩ := exists_append_of_notMem (hc.notMem_reference hopening hname) heq
    exact ⟨left, ⟨hopening, hname, (nameEnds_append_cons hc.notName).mp hend,
      List.append_assoc _ _ _⟩, rfl⟩
  · rintro ⟨rest, ⟨hopening, hname, hend, rfl⟩, rfl⟩
    exact ⟨hopening, hname, (nameEnds_append_cons hc.notName).mpr hend,
      by simp only [List.append_assoc]⟩

theorem Divides.refers_iff (hc : t.Divides c) : t.Refers (u ++ c :: v) ↔ t.Refers u := by
  unfold Refers
  simp only [hc.referenceStart?]
  constructor
  · rintro ⟨opening, name, _, ⟨rest, hstart, -⟩, hname⟩
    exact ⟨opening, name, rest, hstart, hname⟩
  · rintro ⟨opening, name, rest, hstart, hname⟩
    exact ⟨opening, name, _, ⟨rest, hstart, rfl⟩, hname⟩

theorem Divides.stands_iff (hc : t.Divides c) {entry : List Char × List Char}
    (hentry : entry ∈ t.bare) : Stands before entry.1 (u ++ c :: v) ↔ Stands before entry.1 u := by
  refine and_congr_right fun _ => ⟨?_, ?_⟩
  · rintro ⟨rest, heq, hend⟩
    obtain ⟨left, hu, rfl⟩ := exists_append_of_notMem (hc.notBare entry hentry) heq
    exact ⟨left, hu, atWordEnd_append_cons hc.notName ▸ hend⟩
  · rintro ⟨rest, rfl, hend⟩
    exact ⟨rest ++ c :: v, List.append_assoc _ _ _, (atWordEnd_append_cons hc.notName).trans hend⟩

theorem Takes.separate (hc : t.Divides c) {p : Piece} (h : t.Takes before u p rest) :
    t.Takes before (u ++ c :: v) p (rest ++ c :: v) := by
  cases h with
  | reference start entry =>
    exact .reference (hc.referenceStart?.mpr ⟨_, start, rfl⟩) entry
  | word noReference entry first stands split =>
    refine .word (mt hc.refers_iff.mp noReference) entry (fun other hother => ?_)
      ((hc.stands_iff (entry ▸ List.mem_append_right _ List.mem_cons_self)).mpr stands)
      (by rw [split, List.append_assoc])
    exact mt (hc.stands_iff (entry ▸ List.mem_append_left _ hother)).mp (first other hother)
  | character noReference noWord =>
    refine .character (mt (hc.refers_iff (u := _ :: rest)).mp noReference) fun entry hentry => ?_
    exact mt (hc.stands_iff (u := _ :: rest) hentry).mp (noWord entry hentry)

/-- The character itself is left as it is. -/
theorem Divides.takes (ht : t.Named) (hc : t.Divides c) :
    t.Takes before (c :: v) (.character c) v := by
  refine .character (fun href => ?_) fun entry hentry hstands => ?_
  · obtain ⟨_, _, _, hstart, -⟩ := (hc.refers_iff (u := [])).mp href
    exact nomatch hstart
  · obtain ⟨-, rest, hnil, -⟩ := (hc.stands_iff (u := []) hentry).mp hstands
    exact ht entry hentry (List.append_eq_nil_iff.mp hnil.symm).1

/-- Behind a character of no identifier the same is taken as at the start of a text. -/
theorem Takes.behind (hc : isIdentChar c = false) {p : Piece} (h : t.Takes none s p rest) :
    t.Takes (some c) s p rest := by
  have hstands (name s : List Char) : Stands (some c) name s ↔ Stands none name s := by
    simp [Stands, hc]
  cases h with
  | reference start entry => exact .reference start entry
  | word noReference entry first stands split =>
    exact .word noReference entry (fun other hother => mt (hstands _ _).mp (first other hother))
      ((hstands _ _).mpr stands) split
  | character noReference noWord =>
    exact .character noReference fun entry hentry => mt (hstands _ _).mp (noWord entry hentry)

theorem Scans.behind (ht : t.Named) (hc : isIdentChar c = false) {pieces : List Piece}
    (h : t.Scans none s pieces) : t.Scans (some c) s pieces := by
  cases h with
  | done => exact .done
  | step more takes scans =>
    refine .step more (takes.behind hc) ?_
    rw [List.getLast?_eq_some_getLast (takes.source_ne_nil ht)] at scans ⊢
    exact scans

/-- A dividing character is a piece of its own, and the texts around it are scanned by
themselves. -/
theorem Scans.separate (ht : t.Named) (hc : t.Divides c) {pieces pieces' : List Piece}
    (h : t.Scans before u pieces) (h' : t.Scans none v pieces') :
    t.Scans before (u ++ c :: v) (pieces ++ .character c :: pieces') := by
  induction h with
  | done =>
    have hident : isIdentChar c = false := (Bool.or_eq_false_iff.mp hc.notName).1
    exact .step (List.cons_ne_nil c v) (hc.takes ht) (h'.behind ht hident)
  | step more takes _ ih => exact .step (by simp) (takes.separate hc) ih

/-! ## The longest name -/

/-- The bare name that the scan takes is the longest one that stands there. -/
theorem Takes.longest {x : TokenIndex} {raw canonical : List Char}
    (h : x.rewriteTable.Takes before s (.word raw canonical) rest) :
    (raw, canonical) ∈ x.rewriteTable.bare ∧ Stands before raw s
      ∧ ∀ entry ∈ x.rewriteTable.bare, Stands before entry.1 s →
        entry.1.length ≤ raw.length := by
  cases h with
  | @word _ _ _ _ earlier later _ entry first stands split =>
    refine ⟨entry ▸ List.mem_append_right _ List.mem_cons_self, stands, ?_⟩
    intro other hother hstands
    rw [entry] at hother
    rcases List.mem_append.mp hother with hother | hother
    · exact absurd hstands (first other hother)
    · rcases List.mem_cons.mp hother with rfl | hother
      · exact le_rfl
      · -- Both are starts of one text, so the one with fewer bytes has fewer characters.
        by_contra hlonger
        obtain ⟨rest', hs', -⟩ := hstands.2
        obtain ⟨extra, hextra⟩ := List.prefix_of_prefix_length_le ⟨_, split.symm⟩ ⟨rest', hs'.symm⟩
          (Nat.le_of_not_le hlonger)
        have hle : (String.ofList other.1).utf8ByteSize ≤ (String.ofList raw).utf8ByteSize := by
          have hsorted := x.pairwise_bare
          rw [entry, List.pairwise_append, List.pairwise_cons] at hsorted
          exact hsorted.2.1.1 other hother
        rw [← hextra, String.ofList_append, String.utf8ByteSize_append] at hle
        have hzero : String.ofList extra = "" := String.utf8ByteSize_eq_zero_iff.mp (by omega)
        have hnil : extra = [] := by
          rw [← String.toList_ofList (l := extra), hzero]
          rfl
        rw [← hextra, hnil, List.append_nil] at hlonger
        exact hlonger le_rfl

/-- Among the pieces of a scan every word is the longest name that stands at its place: of the bare
names, and of all raw names of the index but those that are their own canonical names. -/
def LongestWords (x : TokenIndex) (pieces : List Piece) : Prop :=
  ∀ (earlier later : List Piece) (raw canonical : List Char),
    pieces = earlier ++ .word raw canonical :: later →
      let before := (earlier.flatMap Piece.source).getLast?
      let left := raw ++ later.flatMap Piece.source
      (raw, canonical) ∈ x.rewriteTable.bare ∧ Stands before raw left
        ∧ (∀ entry ∈ x.rewriteTable.bare, Stands before entry.1 left →
          entry.1.length ≤ raw.length)
        ∧ ∀ (id : VariableId) (other name : String), x.rawNames[id]? = some other →
          x.canonicalNames[id]? = some name → Stands before other.toList left →
            raw.length < other.toList.length → name = other

theorem Scans.longestWords {x : TokenIndex} {pieces : List Piece}
    (h : x.rewriteTable.Scans none s pieces) : LongestWords x pieces := by
  rintro earlier later raw canonical rfl
  have hscans := h.of_append
  rw [Option.or_none] at hscans
  obtain ⟨rest, htakes, -⟩ := hscans.takes
  obtain ⟨hmem, hstands, hlongest⟩ := htakes.longest
  refine ⟨hmem, hstands, hlongest, fun id other name hother hname hstands' hlonger => ?_⟩
  by_contra hne
  obtain ⟨entry, hentry, heq⟩ := TokenIndex.exists_mem_bare hother hname (Ne.symm hne)
  have hle := hlongest entry hentry (heq ▸ hstands')
  rw [heq] at hle
  omega

/-! ## Whole texts -/

/-- With no empty name the scan of every value comes to its end, in one way; the pieces make up the
value, and what they come to makes up the rewritten value. Every word that is replaced is the
longest name at its place. A character that no reference and no bare name can contain stays, and
the texts around it are rewritten by themselves. -/
theorem rewrite_pieces (x : TokenIndex) (hnamed : ∀ entry ∈ x.rewriteTable.bare, entry.1 ≠ []) :
    (∀ value : String, ∃ pieces,
      (∀ others, x.rewriteTable.Scans none value.toList others ↔ others = pieces)
        ∧ value = String.ofList (pieces.flatMap Piece.source)
        ∧ x.rewriteTable.rewrite value = String.ofList (pieces.flatMap Piece.result)
        ∧ LongestWords x pieces)
      ∧ ∀ (u v : String) (c : Char), isIdentChar c = false → c ∉ ['.', '(', ' ', '\t'] →
        (∀ entry ∈ x.rewriteTable.bare, c ∉ entry.1) →
          x.rewriteTable.rewrite (u ++ String.singleton c ++ v)
            = x.rewriteTable.rewrite u ++ String.singleton c ++ x.rewriteTable.rewrite v := by
  constructor
  · intro value
    obtain ⟨pieces, hscans⟩ := exists_scans hnamed none value.toList
    refine ⟨pieces, fun others => ⟨fun h => h.unique hscans, fun h => h ▸ hscans⟩, ?_, ?_,
      hscans.longestWords⟩
    · rw [← hscans.source, String.ofList_toList]
    · unfold rewrite
      rw [hscans.rewriteFrom hnamed]
  · intro u v c hident hother hbare
    have hdivides : x.rewriteTable.Divides c := by
      simp only [List.mem_cons, List.not_mem_nil, or_false, not_or] at hother
      obtain ⟨hpoint, hopen, hspace, htab⟩ := hother
      exact ⟨by simp [isNameChar, hident, hpoint], ⟨hopen, by simp [isBlank, hspace, htab]⟩, hbare⟩
    obtain ⟨pieces, hu⟩ := exists_scans hnamed none u.toList
    obtain ⟨pieces', hv⟩ := exists_scans hnamed none v.toList
    have htext : (u ++ String.singleton c ++ v).toList = u.toList ++ c :: v.toList := by
      simp [String.toList_append]
    apply String.toList_inj.mp
    unfold rewrite
    rw [String.toList_ofList, htext, (hu.separate hnamed hdivides hv).rewriteFrom hnamed,
      hu.rewriteFrom hnamed, hv.rewriteFrom hnamed, List.flatMap_append, List.flatMap_cons]
    simp [Piece.result, String.toList_append]

/-- Two variables, one of whose names starts with the other. -/
def spacings : TokenIndex :=
  .build [⟨⟨"v:1"⟩, "Space L", none⟩, ⟨⟨"v:2"⟩, "Space", none⟩] []

theorem bare_spacings : spacings.rewriteTable.bare
    = [("Space L".toList, "space-l".toList), ("Space".toList, "space".toList)] :=
  TokenIndex.bare_of_pairwise
    (by decide +kernel : _ = [("Space L", "space-l"), ("Space", "space")]) (by decide)

theorem rewrite_pieces_spacings :
    (∀ entry ∈ spacings.rewriteTable.bare, entry.1 ≠ [])
      ∧ spacings.rewriteTable.rewrite ("Space L" ++ String.singleton ';' ++ "Space")
        = spacings.rewriteTable.rewrite "Space L" ++ String.singleton ';'
          ++ spacings.rewriteTable.rewrite "Space" := by
  have hnamed : ∀ entry ∈ spacings.rewriteTable.bare, entry.1 ≠ [] := by
    rw [bare_spacings]
    decide
  have happart : ∀ entry ∈ spacings.rewriteTable.bare, ';' ∉ entry.1 := by
    rw [bare_spacings]
    decide
  exact ⟨hnamed, (rewrite_pieces spacings hnamed).2 "Space L" "Space" ';' (by decide) (by decide)
    happart⟩

end SceneCompiler.RewriteTable
