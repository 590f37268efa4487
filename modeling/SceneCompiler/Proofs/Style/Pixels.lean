import Mathlib
import SceneCompiler.Proofs.Style.Places
import SceneCompiler.Proofs.Text.Spans
import SceneCompiler.Style.Pixels
/-!
# Pixel literals in style values

A literal is a number with the unit, and it counts only where no identifier and no point goes right
before it and no identifier right after it. The scan tries every place of a value in turn and goes
on behind what it has found. No literal counts behind a character of another one, so none that
counts starts inside of what was found, and the scan misses none.

* `IsLiteral`, `Stands`: the grammar, and where a literal counts.
* `literalAt?_eq_some_iff`: what the scan finds at one place.
* `Scans`: the scan of a text; `Scans.of_append`, `Scans.exists_literal`: it finds just the literals
  that count.
* `Cut`: a value cut at the ranges of its literals.
* `replacePixels_literals`: all of that for values and for style maps.
-/

namespace SceneCompiler.Pixels

/-! ## Definitions -/

/-- Digits, at least one. -/
def IsDigits (s : List Char) : Prop :=
  s ≠ [] ∧ ∀ c ∈ s, c.isDigit = true

/-- Nothing, or a point with digits behind it. -/
def IsFraction (s : List Char) : Prop :=
  s = [] ∨ ∃ digits, IsDigits digits ∧ s = '.' :: digits

/-- `-?[0-9]+(\.[0-9]+)?px` -/
def IsLiteral (s : List Char) : Prop :=
  ∃ sign whole fraction, (sign = [] ∨ sign = ['-']) ∧ IsDigits whole ∧ IsFraction fraction
    ∧ s = sign ++ (whole ++ (fraction ++ "px".toList))

/-- A literal may start behind such a character. -/
def mayPrecede (c : Char) : Bool :=
  !isIdentChar c && c != '.'

/-- A literal between two texts counts. -/
structure Stands (before literal after : List Char) : Prop where
  isLiteral : IsLiteral literal
  starts : before.getLast?.all mayPrecede = true
  ends : after.head?.all (fun c => !isIdentChar c) = true

/-- A literal counts in a value, at a range of its bytes. -/
def OccursAt (value literal : String) (range : Nat × Nat) : Prop :=
  ∃ before after : String, value = before ++ literal ++ after
    ∧ Stands before.toList literal.toList after.toList
    ∧ range = (before.utf8ByteSize, before.utf8ByteSize + literal.utf8ByteSize)

/-! ## A literal at the start of a text -/

section Start

variable {s rest body literal after : List Char} {before : Option Char} {n : Nat}

/-- The fraction at the start of a text, by its length, and what is behind it. -/
def takeFraction (s : List Char) : Nat × List Char :=
  match s with
  | '.' :: r =>
    let digits := r.takeWhile Char.isDigit
    if digits.isEmpty then (0, s) else (digits.length + 1, r.dropWhile Char.isDigit)
  | _ => (0, s)

/-- A number without its sign, and the unit. -/
def unsignedLength? (sign : Nat) (s : List Char) : Option Nat :=
  let whole := s.takeWhile Char.isDigit
  let (fraction, rest) := takeFraction (s.dropWhile Char.isDigit)
  match rest with
  | 'p' :: 'x' :: after =>
    if whole.isEmpty || after.head?.any isIdentChar then none
    else some (sign + whole.length + fraction + 2)
  | _ => none

theorem literalLength?_dash (s : List Char) : literalLength? ('-' :: s) = unsignedLength? 1 s :=
  rfl

theorem literalLength?_of_head? (h : s.head? ≠ some '-') :
    literalLength? s = unsignedLength? 0 s := by
  unfold literalLength?
  split
  next sign body hmatch =>
  split at hmatch
  · exact absurd rfl h
  · obtain ⟨rfl, rfl⟩ := Prod.mk.inj hmatch
    rfl

theorem exists_fraction (s : List Char) : ∃ fraction, IsFraction fraction
    ∧ s = fraction ++ (takeFraction s).2 ∧ (takeFraction s).1 = fraction.length := by
  unfold takeFraction
  split
  · next r =>
    dsimp only
    split
    · exact ⟨[], Or.inl rfl, rfl, rfl⟩
    · next hdigits =>
      refine ⟨'.' :: r.takeWhile Char.isDigit, Or.inr ⟨_, ⟨?_, ?_⟩, rfl⟩, ?_, rfl⟩
      · simpa using hdigits
      · exact fun c hc => List.mem_takeWhile_imp hc
      · rw [List.cons_append, List.takeWhile_append_dropWhile]
  · exact ⟨[], Or.inl rfl, rfl, rfl⟩

theorem takeFraction_append {fraction : List Char} (h : IsFraction fraction)
    (hrest : rest.head? = some 'p') : takeFraction (fraction ++ rest) = (fraction.length, rest) := by
  have hend : rest.head?.all (fun c => !c.isDigit) = true := by
    rw [hrest]
    decide
  rcases h with rfl | ⟨digits, ⟨hne, hdigits⟩, rfl⟩
  · obtain ⟨tail, rfl⟩ := List.head?_eq_some_iff.mp hrest
    rfl
  · simp [takeFraction, takeWhile_append_of_head? hdigits hend,
      dropWhile_append_of_head? hdigits hend, hne]

theorem unsignedLength?_eq_some_iff {sign : Nat} : unsignedLength? sign s = some n
    ↔ ∃ whole fraction after, IsDigits whole ∧ IsFraction fraction
      ∧ s = whole ++ (fraction ++ ("px".toList ++ after))
      ∧ after.head?.all (fun c => !isIdentChar c) = true
      ∧ n = sign + (whole ++ (fraction ++ "px".toList)).length := by
  constructor
  · intro h
    unfold unsignedLength? at h
    dsimp only at h
    obtain ⟨fraction, hfraction, hsplit, hlength⟩ := exists_fraction (s.dropWhile Char.isDigit)
    split at h
    · next after hrest =>
      obtain ⟨hstands, hn⟩ := Option.ite_none_left_eq_some.mp h
      simp only [Bool.or_eq_true, not_or, Bool.not_eq_true, List.isEmpty_eq_false_iff] at hstands
      refine ⟨s.takeWhile Char.isDigit, fraction, after, ⟨hstands.1, ?_⟩, hfraction, ?_, ?_, ?_⟩
      · exact fun c hc => List.mem_takeWhile_imp hc
      · rw [hrest] at hsplit
        show s = s.takeWhile Char.isDigit ++ (fraction ++ 'p' :: 'x' :: after)
        rw [← hsplit, List.takeWhile_append_dropWhile]
      · cases after with
        | nil => rfl
        | cons c after => simpa using hstands.2
      · rw [← Option.some.inj hn, hlength]
        simp [Nat.add_assoc]
    · cases h
  · rintro ⟨whole, fraction, after, ⟨hne, hdigits⟩, hfraction, rfl, hends, rfl⟩
    have hend : (fraction ++ ("px".toList ++ after)).head?.all (fun c => !c.isDigit) = true := by
      rcases hfraction with rfl | ⟨digits, -, rfl⟩
      · rfl
      · rfl
    have hident : after.head?.any isIdentChar = false := by
      cases after with
      | nil => rfl
      | cons c after => simpa using hends
    unfold unsignedLength?
    simp only [takeWhile_append_of_head? hdigits hend, dropWhile_append_of_head? hdigits hend]
    rw [takeFraction_append hfraction rfl]
    simp [hne, hident, Nat.add_assoc]

/-- What a literal at the start of a text is. -/
theorem literalLength?_eq_some_iff : literalLength? s = some n
    ↔ ∃ literal after, s = literal ++ after ∧ IsLiteral literal ∧ literal.length = n
      ∧ after.head?.all (fun c => !isIdentChar c) = true := by
  constructor
  · intro h
    obtain ⟨sign, body, rfl, hsign, hbody⟩ : ∃ sign body, s = sign ++ body
        ∧ (sign = [] ∨ sign = ['-']) ∧ unsignedLength? sign.length body = some n := by
      by_cases hdash : s.head? = some '-'
      · obtain ⟨body, rfl⟩ := List.head?_eq_some_iff.mp hdash
        exact ⟨['-'], body, rfl, Or.inr rfl, literalLength?_dash body ▸ h⟩
      · exact ⟨[], s, rfl, Or.inl rfl, literalLength?_of_head? hdash ▸ h⟩
    obtain ⟨whole, fraction, after, hwhole, hfraction, rfl, hends, rfl⟩ :=
      unsignedLength?_eq_some_iff.mp hbody
    exact ⟨sign ++ (whole ++ (fraction ++ "px".toList)), after, by simp,
      ⟨sign, whole, fraction, hsign, hwhole, hfraction, rfl⟩, List.length_append, hends⟩
  · rintro ⟨_, after, rfl, ⟨sign, whole, fraction, hsign, hwhole, hfraction, rfl⟩, rfl, hends⟩
    have hbody : unsignedLength? sign.length (whole ++ (fraction ++ ("px".toList ++ after)))
        = some (sign ++ (whole ++ (fraction ++ "px".toList))).length :=
      unsignedLength?_eq_some_iff.mpr ⟨whole, fraction, after, hwhole, hfraction, rfl, hends,
        List.length_append⟩
    rw [List.append_assoc, List.append_assoc, List.append_assoc]
    rcases hsign with rfl | rfl
    · -- A digit comes first, so no sign is taken.
      obtain ⟨c, digits, rfl⟩ := List.exists_cons_of_ne_nil hwhole.1
      have hc : c ≠ '-' := fun heq => absurd (hwhole.2 c List.mem_cons_self) (by rw [heq]; decide)
      rw [List.nil_append, literalLength?_of_head? (by simpa using hc)]
      exact hbody
    · exact (literalLength?_dash _).trans hbody

/-- What the scan finds at a place, and what is in front of it. -/
theorem literalAt?_eq_some_iff : literalAt? before s = some n
    ↔ before.all mayPrecede = true ∧ ∃ literal after, s = literal ++ after ∧ IsLiteral literal
      ∧ literal.length = n ∧ after.head?.all (fun c => !isIdentChar c) = true := by
  have hbefore : (before.any fun c => isIdentChar c || c == '.') = !before.all mayPrecede := by
    cases before with
    | none => rfl
    | some c => simp [mayPrecede, bne]
  unfold literalAt?
  rw [hbefore, Option.ite_none_left_eq_some, literalLength?_eq_some_iff]
  simp

theorem IsLiteral.ne_nil (h : IsLiteral literal) : literal ≠ [] := by
  obtain ⟨sign, whole, fraction, -, -, -, rfl⟩ := h
  simp

/-- A text is found as a literal just when it is one and may stand there. -/
theorem literalAt?_append_iff : literalAt? before (literal ++ after) = some literal.length
    ↔ IsLiteral literal ∧ before.all mayPrecede = true
      ∧ after.head?.all (fun c => !isIdentChar c) = true := by
  rw [literalAt?_eq_some_iff]
  constructor
  · rintro ⟨hstarts, found, behind, hsplit, hfound, hlength, hends⟩
    obtain ⟨rfl, rfl⟩ := List.append_inj hsplit hlength.symm
    exact ⟨hfound, hstarts, hends⟩
  · rintro ⟨hliteral, hstarts, hends⟩
    exact ⟨hstarts, literal, after, rfl, hliteral, rfl, hends⟩

theorem stands_iff {front : List Char} : Stands front literal after
    ↔ literalAt? front.getLast? (literal ++ after) = some literal.length := by
  rw [literalAt?_append_iff]
  exact ⟨fun h => ⟨h.isLiteral, h.starts, h.ends⟩, fun h => ⟨h.1, h.2.1, h.2.2⟩⟩

theorem ne_nil_of_literalAt? (h : literalAt? before (literal ++ s) = some literal.length) :
    literal ≠ [] :=
  (literalAt?_append_iff.mp h).1.ne_nil

/-- Behind a character of a literal no literal may start. -/
theorem IsLiteral.not_mayPrecede (h : IsLiteral literal) {c : Char} (hc : c ∈ literal) :
    mayPrecede c = false := by
  have hdigit (c : Char) (hc : c.isDigit = true) : mayPrecede c = false := by
    simp [mayPrecede, isIdentChar, Char.isAlphanum, hc]
  obtain ⟨sign, whole, fraction, hsign, hwhole, hfraction, rfl⟩ := h
  simp only [List.mem_append] at hc
  rcases hc with hc | hc | hc | hc
  · rcases hsign with rfl | rfl
    · cases hc
    · rw [List.mem_singleton.mp hc]
      decide
  · exact hdigit c (hwhole.2 c hc)
  · rcases hfraction with rfl | ⟨digits, hdigits, rfl⟩
    · cases hc
    · rcases List.mem_cons.mp hc with rfl | hc
      · decide
      · exact hdigit c (hdigits.2 c hc)
  · have hall : ("px".toList.all fun c => !mayPrecede c) = true := by decide
    simpa using List.all_eq_true.mp hall c hc

end Start

/-! ## The scan of a text -/

/-- The text that pieces make up. -/
def textOf (pieces : List Piece) : List Char :=
  pieces.flatMap Piece.text

/-- The scan of a text: a literal where one counts, else one character. -/
inductive Scans : Option Char → List Char → List Piece → Prop where
  | nil {before : Option Char} : Scans before [] []
  | literal {before : Option Char} {literal s : List Char} {pieces : List Piece}
      (found : literalAt? before (literal ++ s) = some literal.length)
      (rest : Scans literal.getLast? s pieces) :
      Scans before (literal ++ s) (.literal literal :: pieces)
  | other {before : Option Char} {c : Char} {s : List Char} {pieces : List Piece}
      (unfound : literalAt? before (c :: s) = none) (rest : Scans (some c) s pieces) :
      Scans before (c :: s) (.other c :: pieces)

section Scanning

variable {before : Option Char} {s literal after : List Char} {pieces earlier later : List Piece}

theorem getLast?_cons_or (c : Char) (s : List Char) (before : Option Char) :
    (c :: s).getLast?.or before = s.getLast?.or (some c) := by
  rw [List.getLast?_cons]
  cases s.getLast? <;> rfl

theorem getLast?_append_or {t : List Char} (ht : t ≠ []) (u : List Char) (before : Option Char) :
    (t ++ u).getLast?.or before = u.getLast?.or t.getLast? := by
  rw [List.getLast?_append, Option.or_assoc, List.getLast?_eq_some_getLast ht, Option.some_or]

/-- The characters of a literal that was found are skipped. -/
theorem piecesFrom_append (t s : List Char) (before : Option Char) :
    piecesFrom before t.length (t ++ s) = piecesFrom (t.getLast?.or before) 0 s := by
  induction t generalizing before with
  | nil => rfl
  | cons c t ih => rw [List.length_cons, List.cons_append, piecesFrom, ih, getLast?_cons_or]

theorem scans_piecesFrom (before : Option Char) (s : List Char) :
    Scans before s (piecesFrom before 0 s) := by
  induction hlength : s.length using Nat.strong_induction_on generalizing before s with
  | _ length ih =>
    cases s with
    | nil => exact .nil
    | cons c s =>
      rw [piecesFrom]
      cases hfound : literalAt? before (c :: s) with
      | none => exact .other hfound (ih s.length (by simp [← hlength]) (some c) s rfl)
      | some n =>
        obtain ⟨-, literal, after, hsplit, hliteral, rfl, -⟩ := literalAt?_eq_some_iff.mp hfound
        obtain ⟨d, digits, rfl⟩ := List.exists_cons_of_ne_nil hliteral.ne_nil
        obtain ⟨rfl, rfl⟩ := List.cons.inj hsplit
        have hrest : piecesFrom (some c) digits.length (digits ++ after)
            = piecesFrom (c :: digits).getLast? 0 after := by
          rw [piecesFrom_append, ← getLast?_cons_or c digits none, Option.or_none]
        show Scans before (c :: digits ++ after)
          (.literal ((c :: digits ++ after).take (c :: digits).length)
            :: piecesFrom (some c) digits.length (digits ++ after))
        rw [List.take_left, hrest]
        refine .literal hfound (ih after.length ?_ _ after rfl)
        rw [← hlength]
        simp

theorem Scans.source (h : Scans before s pieces) : s = textOf pieces := by
  induction h with
  | nil => rfl
  | literal _ _ ih => rw [textOf, List.flatMap_cons, ← textOf, ← ih, Piece.text]
  | other _ _ ih =>
    rw [textOf, List.flatMap_cons, ← textOf, ← ih, Piece.text]
    rfl

theorem textOf_append (pieces others : List Piece) :
    textOf (pieces ++ others) = textOf pieces ++ textOf others :=
  List.flatMap_append

/-- The scan goes on from any of its pieces. -/
theorem Scans.of_append (h : Scans before s (earlier ++ later)) :
    Scans ((textOf earlier).getLast?.or before) (textOf later) later := by
  induction earlier generalizing before s with
  | nil => rwa [List.nil_append, h.source] at h
  | cons piece earlier ih =>
    cases h with
    | @literal _ literal s _ found rest =>
      have htext : textOf (.literal literal :: earlier) = literal ++ textOf earlier := rfl
      rw [htext, getLast?_append_or (ne_nil_of_literalAt? found)]
      exact ih rest
    | @other _ c s _ unfound rest =>
      have htext : textOf (.other c :: earlier) = c :: textOf earlier := rfl
      rw [htext, getLast?_cons_or]
      exact ih rest

theorem Scans.found (h : Scans before s (.literal literal :: later)) :
    literalAt? before (literal ++ textOf later) = some literal.length := by
  cases h with
  | literal found rest => rwa [rest.source] at found

/-- The scan comes to every literal that counts: it never goes past the start of one, since no
literal starts inside of another. -/
theorem Scans.exists_literal (h : Scans before s pieces) {front : List Char}
    (hs : s = front ++ (literal ++ after))
    (hfound : literalAt? (front.getLast?.or before) (literal ++ after) = some literal.length) :
    ∃ earlier later, pieces = earlier ++ .literal literal :: later ∧ textOf earlier = front := by
  induction h generalizing front with
  | nil =>
    have hnil := List.append_eq_nil_iff.mp (List.append_eq_nil_iff.mp hs.symm).2
    exact absurd hnil.1 (ne_nil_of_literalAt? hfound)
  | @literal before first rest pieces found _ ih =>
    rcases List.append_eq_append_iff.mp hs with ⟨front', rfl, hrest⟩ | ⟨inside, rfl, hrest⟩
    · -- The literal is behind the one that was found.
      rw [getLast?_append_or (ne_nil_of_literalAt? found)] at hfound
      obtain ⟨earlier, later, rfl, htext⟩ := ih hrest hfound
      exact ⟨.literal first :: earlier, later, rfl, congrArg (first ++ ·) htext⟩
    · cases hlast : front.getLast? with
      | none =>
        -- Both start here, and the length of what is found here is one.
        obtain rfl := List.getLast?_eq_none_iff.mp hlast
        rw [hs] at found
        have hlength : (([] : List Char) ++ inside).length = literal.length :=
          Option.some.inj (found.symm.trans hfound)
        obtain ⟨rfl, -⟩ := List.append_inj (show inside ++ rest = literal ++ after from hs) hlength
        exact ⟨[], pieces, rfl, rfl⟩
      | some c =>
        have hc : c ∈ front ++ inside := List.mem_append_left _ (List.mem_of_getLast? hlast)
        have hnot := (literalAt?_append_iff.mp found).1.not_mayPrecede hc
        have hmay := (literalAt?_append_iff.mp hfound).2.1
        rw [hlast, Option.some_or, Option.all_some, hnot] at hmay
        cases hmay
  | @other before c rest pieces unfound _ ih =>
    cases front with
    | nil =>
      rw [hs] at unfound
      exact absurd (unfound.symm.trans hfound) nofun
    | cons d front =>
      obtain ⟨rfl, hrest⟩ := List.cons.inj hs
      rw [getLast?_cons_or] at hfound
      obtain ⟨earlier, later, rfl, htext⟩ := ih hrest hfound
      exact ⟨.other c :: earlier, later, rfl, congrArg (c :: ·) htext⟩

/-- The literals among the pieces are those that count. -/
theorem Scans.mem_iff (h : Scans none s pieces) {front : List Char} :
    (∃ earlier later, pieces = earlier ++ .literal literal :: later ∧ textOf earlier = front
        ∧ textOf later = after)
      ↔ s = front ++ (literal ++ after) ∧ Stands front literal after := by
  constructor
  · rintro ⟨earlier, later, rfl, rfl, rfl⟩
    have hfound := h.of_append.found
    rw [Option.or_none] at hfound
    exact ⟨h.source.trans (textOf_append _ _), stands_iff.mpr hfound⟩
  · rintro ⟨rfl, hstands⟩
    have hfound := stands_iff.mp hstands
    obtain ⟨earlier, later, rfl, rfl⟩ := h.exists_literal rfl (by rwa [Option.or_none])
    have hsource := h.source.trans (textOf_append _ _)
    refine ⟨earlier, later, rfl, rfl, ?_⟩
    exact (List.append_cancel_left (List.append_cancel_left hsource)).symm

end Scanning

/-! ## Ranges -/

section Ranges

variable {value literal : String} {range : Nat × Nat}

/-- A literal among pieces is the first piece, or it is among the others. -/
theorem exists_literal_cons_iff {piece : Piece} {pieces : List Piece}
    {P : List Piece → List Char → Prop} :
    (∃ earlier literal later, piece :: pieces = earlier ++ .literal literal :: later
        ∧ P earlier literal)
      ↔ (∃ literal, piece = .literal literal ∧ P [] literal)
        ∨ ∃ earlier literal later, pieces = earlier ++ .literal literal :: later
          ∧ P (piece :: earlier) literal := by
  constructor
  · rintro ⟨earlier, literal, later, hpieces, hP⟩
    cases earlier with
    | nil => exact Or.inl ⟨literal, (List.cons.inj hpieces).1, hP⟩
    | cons first earlier =>
      obtain ⟨rfl, hrest⟩ := List.cons.inj hpieces
      exact Or.inr ⟨earlier, literal, later, hrest, hP⟩
  · rintro (⟨literal, rfl, hP⟩ | ⟨earlier, literal, later, rfl, hP⟩)
    · exact ⟨[], literal, pieces, rfl, hP⟩
    · exact ⟨piece :: earlier, literal, later, rfl, hP⟩

theorem mem_rangesFrom (pieces : List Piece) (offset : Nat) :
    range ∈ rangesFrom offset pieces ↔ ∃ earlier literal later,
      pieces = earlier ++ .literal literal :: later
        ∧ range.1 = offset + utf8Length (textOf earlier)
        ∧ range.2 = range.1 + utf8Length literal := by
  induction pieces generalizing offset with
  | nil => simp [rangesFrom]
  | cons piece pieces ih =>
    have hlength (earlier : List Piece) : utf8Length (textOf (piece :: earlier))
        = utf8Length piece.text + utf8Length (textOf earlier) :=
      utf8Length_append _ _
    rw [exists_literal_cons_iff]
    simp only [hlength, ← Nat.add_assoc]
    cases piece with
    | other c =>
      rw [rangesFrom, ih, or_iff_right fun ⟨_, hpiece, _⟩ => by cases hpiece]
      rfl
    | literal text =>
      rw [rangesFrom, List.mem_cons, ih]
      refine or_congr ⟨fun hrange => ⟨text, rfl, ?_⟩, ?_⟩ Iff.rfl
      · rw [hrange]
        exact ⟨rfl, rfl⟩
      · rintro ⟨literal, hliteral, hstart, hstop⟩
        obtain rfl := Piece.literal.inj hliteral
        exact Prod.ext hstart (hstop.trans (congrArg (· + _) hstart))

/-- The ranges go up, and none starts before the one in front of it has ended. -/
theorem pairwise_rangesFrom (pieces : List Piece) (offset : Nat) :
    (rangesFrom offset pieces).Pairwise fun range later => range.2 ≤ later.1 := by
  induction pieces generalizing offset with
  | nil => exact List.Pairwise.nil
  | cons piece pieces ih =>
    cases piece with
    | other c => exact ih _
    | literal text =>
      refine List.pairwise_cons.mpr ⟨fun later hlater => ?_, ih _⟩
      obtain ⟨earlier, _, _, -, hstart, -⟩ := (mem_rangesFrom pieces _).mp hlater
      rw [hstart]
      exact Nat.le_add_right _ _

/-- A literal among the pieces of a value counts where they have it, and each that counts is among
them. -/
theorem occursAt_iff : OccursAt value literal range
    ↔ ∃ earlier later, pieces value = earlier ++ .literal literal.toList :: later
      ∧ range.1 = utf8Length (textOf earlier)
      ∧ range.2 = range.1 + utf8Length literal.toList := by
  have hscans := scans_piecesFrom none value.toList
  have hbytes (s : String) : utf8Length s.toList = s.utf8ByteSize := by
    rw [← utf8ByteSize_ofList, String.ofList_toList]
  constructor
  · rintro ⟨before, after, rfl, hstands, rfl⟩
    have htext : (before ++ literal ++ after).toList
        = before.toList ++ (literal.toList ++ after.toList) := by
      simp only [String.toList_append, List.append_assoc]
    obtain ⟨earlier, later, hpieces, htextOf, -⟩ := hscans.mem_iff.mpr ⟨htext, hstands⟩
    refine ⟨earlier, later, hpieces, ?_, ?_⟩
    · rw [htextOf, hbytes]
    · rw [hbytes]
  · rintro ⟨earlier, later, hpieces, hstart, hstop⟩
    obtain ⟨htext, hstands⟩ := hscans.mem_iff.mp ⟨earlier, later, hpieces, rfl, rfl⟩
    refine ⟨String.ofList (textOf earlier), String.ofList (textOf later), ?_, ?_, ?_⟩
    · apply String.toList_inj.mp
      simp only [htext, String.toList_append, String.toList_ofList, List.append_assoc]
    · simpa only [String.toList_ofList] using hstands
    · rw [utf8ByteSize_ofList, ← hbytes, ← hstart, ← hstop]

/-- The ranges of a value are those of the literals that count in it. -/
theorem mem_ranges_iff :
    range ∈ ranges value ↔ ∃ literal, OccursAt value literal range := by
  simp only [ranges, mem_rangesFrom, occursAt_iff, Nat.zero_add]
  constructor
  · rintro ⟨earlier, literal, later, hpieces, hranges⟩
    exact ⟨String.ofList literal, earlier, later, by simpa using hpieces, by simpa using hranges⟩
  · rintro ⟨literal, earlier, later, hpieces, hranges⟩
    exact ⟨earlier, literal.toList, later, hpieces, hranges⟩

theorem mem_literals_iff :
    literal ∈ literals value ↔ ∃ range, OccursAt value literal range := by
  have hmem : literal ∈ literals value ↔ .literal literal.toList ∈ pieces value := by
    unfold literals
    rw [List.mem_filterMap]
    constructor
    · rintro ⟨piece, hpiece, hliteral⟩
      cases piece with
      | other c => cases hliteral
      | literal text =>
        obtain rfl := Option.some.inj hliteral
        rwa [String.toList_ofList]
    · exact fun h => ⟨_, h, congrArg some String.ofList_toList⟩
  rw [hmem, List.mem_iff_append]
  simp only [occursAt_iff]
  constructor
  · rintro ⟨earlier, later, hpieces⟩
    let start := utf8Length (textOf earlier)
    exact ⟨(start, start + utf8Length literal.toList), earlier, later, hpieces, rfl, rfl⟩
  · rintro ⟨_, earlier, later, hpieces, -⟩
    exact ⟨earlier, later, hpieces⟩

end Ranges

/-! ## Values -/

section Values

variable {literal : List Char}

theorem takeSign_digits {whole : List Char} (h : IsDigits whole) (rest : List Char) :
    takeSign (whole ++ rest) = (false, whole ++ rest) := by
  obtain ⟨c, digits, rfl⟩ := List.exists_cons_of_ne_nil h.1
  have hc := h.2 c List.mem_cons_self
  unfold takeSign
  split
  · next heq => exact absurd hc (by rw [(List.cons.inj heq).1]; decide)
  · next heq => exact absurd hc (by rw [(List.cons.inj heq).1]; decide)
  · rfl

/-- A number with digits in front of its fraction is a decimal. -/
theorem isSome_readDecimal? {whole fraction : List Char} (hwhole : IsDigits whole)
    (hfraction : IsFraction fraction) : (readDecimal? (whole ++ fraction)).isSome = true := by
  rcases hfraction with rfl | ⟨digits, hdigits, rfl⟩
  · have htake := takeWhile_append_of_head? (y := []) hwhole.2 rfl
    have hdrop := dropWhile_append_of_head? (y := []) hwhole.2 rfl
    rw [List.append_nil] at htake hdrop ⊢
    simp [readDecimal?, htake, hdrop, hwhole.1, readExponent?]
  · have hend : ('.' :: digits).head?.all (fun c => !c.isDigit) = true := rfl
    have hrest : digits.dropWhile Char.isDigit = [] := List.dropWhile_eq_nil_iff.mpr hdigits.2
    simp [readDecimal?, takeWhile_append_of_head? hwhole.2 hend,
      dropWhile_append_of_head? hwhole.2 hend, hwhole.1, hrest, readExponent?]

/-- A literal has a value: its number can be read. -/
theorem IsLiteral.isSome_value? (h : IsLiteral literal) :
    (value? (String.ofList literal)).isSome = true := by
  obtain ⟨sign, whole, fraction, hsign, hwhole, hfraction, rfl⟩ := h
  have hvalue : value? (String.ofList (sign ++ (whole ++ (fraction ++ "px".toList))))
      = readSingle? (sign ++ (whole ++ fraction)) := by
    have htext : (String.ofList (sign ++ (whole ++ (fraction ++ "px".toList)))).toList
        = sign ++ (whole ++ fraction) ++ "px".toList := by
      refine String.toList_ofList.trans ?_
      simp only [List.append_assoc]
    show (stripEnd? "px".toList _).bind readSingle? = _
    rw [htext, stripEnd?_append, Option.bind_some]
  obtain ⟨negative, htake⟩ : ∃ negative,
      takeSign (sign ++ (whole ++ fraction)) = (negative, whole ++ fraction) := by
    rcases hsign with rfl | rfl
    · exact ⟨false, takeSign_digits hwhole fraction⟩
    · exact ⟨true, rfl⟩
  rw [hvalue]
  unfold readSingle?
  rw [htake]
  dsimp only
  split
  · rfl
  · split
    · rfl
    · rw [Option.isSome_map, isSome_readDecimal? hwhole hfraction]

end Values

/-! ## Cuts -/

/-- A text cut into stretches, each with the gap in front of it, and what is behind the last. -/
structure Cut where
  stretches : List (List Char × List Char)
  last : List Char

namespace Cut

/-- The text with what stands for its stretches. -/
def textWith (f : List Char → List Char) (cut : Cut) : List Char :=
  (cut.stretches.flatMap fun s => s.1 ++ f s.2) ++ cut.last

/-- The places of the stretches in a text that starts at a byte offset. -/
def rangesFrom (offset : Nat) : List (List Char × List Char) → List (Nat × Nat)
  | [] => []
  | (gap, stretch) :: rest =>
    (offset + utf8Length gap, offset + utf8Length gap + utf8Length stretch)
      :: rangesFrom (offset + utf8Length gap + utf8Length stretch) rest

def ranges (cut : Cut) : List (Nat × Nat) :=
  rangesFrom 0 cut.stretches

/-- Behind a gap, the text of pieces cut at their literals. -/
def ofPieces (gap : List Char) : List Piece → Cut
  | [] => ⟨[], gap⟩
  | .other c :: pieces => ofPieces (gap ++ [c]) pieces
  | .literal literal :: pieces =>
    let rest := ofPieces [] pieces
    ⟨(gap, literal) :: rest.stretches, rest.last⟩

end Cut

/-- What stands for a literal: its entry in a table, or else the literal. -/
def entryOf (table : TextMap) (literal : List Char) : List Char :=
  match table[String.ofList literal]? with
  | some other => other.toList
  | none => literal

/-- The text of a piece with what stands for a literal. -/
def Piece.textWith (f : List Char → List Char) : Piece → List Char
  | literal text => f text
  | other c => [c]

section Cutting

theorem textWith_ofPieces (f : List Char → List Char) (gap : List Char) (pieces : List Piece) :
    (Cut.ofPieces gap pieces).textWith f = gap ++ pieces.flatMap (Piece.textWith f) := by
  induction pieces generalizing gap with
  | nil => simp [Cut.ofPieces, Cut.textWith]
  | cons piece pieces ih =>
    cases piece with
    | other c =>
      rw [Cut.ofPieces, ih, List.flatMap_cons, Piece.textWith, List.append_assoc]
    | literal text =>
      have hrest := ih []
      unfold Cut.textWith at hrest
      simp only [Cut.ofPieces, Cut.textWith, List.flatMap_cons, List.append_assoc, hrest,
        Piece.textWith, List.nil_append]

theorem ranges_ofPieces (gap : List Char) (pieces : List Piece) (offset : Nat) :
    Cut.rangesFrom offset (Cut.ofPieces gap pieces).stretches
      = rangesFrom (offset + utf8Length gap) pieces := by
  induction pieces generalizing gap offset with
  | nil => rfl
  | cons piece pieces ih =>
    cases piece with
    | other c =>
      rw [Cut.ofPieces, ih, rangesFrom, utf8Length_append, Nat.add_assoc]
      rfl
    | literal text =>
      simp only [Cut.ofPieces, Cut.rangesFrom, rangesFrom, ih]
      rfl

theorem textWith_id (pieces : List Piece) : pieces.flatMap (Piece.textWith id) = textOf pieces :=
  List.flatMap_congr fun piece _ => by cases piece <;> rfl

theorem toList_replace (table : TextMap) (value : String) :
    (replace table value).toList = (pieces value).flatMap (Piece.textWith (entryOf table)) := by
  unfold replace
  rw [String.toList_ofList]
  exact List.flatMap_congr fun piece _ => by cases piece <;> rfl

/-- Every value can be cut at the ranges of its literals, and other texts are put in the place of
the stretches, all at once. -/
theorem exists_cut (value : String) : ∃ cut : Cut, value.toList = cut.textWith id
    ∧ ranges value = cut.ranges
    ∧ ∀ table, (replace table value).toList = cut.textWith (entryOf table) := by
  refine ⟨Cut.ofPieces [] (pieces value), ?_, ?_, fun table => ?_⟩
  · rw [textWith_ofPieces, textWith_id, List.nil_append]
    exact (scans_piecesFrom none value.toList).source
  · exact (ranges_ofPieces [] (pieces value) 0).symm
  · rw [textWith_ofPieces, List.nil_append, toList_replace]

end Cutting

end SceneCompiler.Pixels

namespace SceneCompiler.StyleMap

open Pixels

/-- The literals of a style map go up in order, and they are those of its values. -/
theorem pairwise_pixelLiterals (styles : StyleMap) :
    styles.pixelLiterals.Pairwise (· < ·) := by
  have hordered : styles.pixelLiterals.Pairwise fun a b => compare a b = .lt :=
    Std.ExtTreeSet.ordered_toList
  exact hordered.imp compareOfLessAndEq_eq_lt.mp

theorem mem_pixelLiterals_iff {styles : StyleMap} {literal : String} :
    literal ∈ styles.pixelLiterals ↔ ∃ id property value range,
      styles.value? id property = some value ∧ OccursAt value literal range := by
  unfold pixelLiterals
  rw [Std.ExtTreeSet.mem_toList, Std.ExtTreeSet.mem_ofList, List.contains_iff_mem,
    List.mem_flatMap]
  simp only [mem_values_iff, mem_literals_iff]
  constructor
  · rintro ⟨value, ⟨id, property, hvalue⟩, range, hoccurs⟩
    exact ⟨id, property, value, range, hvalue, hoccurs⟩
  · rintro ⟨id, property, value, range, hvalue, hoccurs⟩
    exact ⟨value, ⟨id, property, hvalue⟩, range, hoccurs⟩

/-- The ranges of a value go up, and they are those of the literals that count in it, each of which
has a value of its own. The literals of a style map are those of its values, in order and each once.
Replacing puts the entry of each literal in its place, in every value and all at once, and leaves
what has no entry and all other text. -/
theorem replacePixels_literals :
    (∀ value : String, (ranges value).Pairwise (fun range later => range.2 ≤ later.1)
        ∧ (∀ range, range ∈ ranges value ↔ ∃ literal, OccursAt value literal range)
        ∧ ∀ literal range, OccursAt value literal range →
          range.1 < range.2 ∧ (Pixels.value? literal).isSome = true)
      ∧ (∀ styles : StyleMap, styles.pixelLiterals.Pairwise (· < ·)
        ∧ ∀ literal, literal ∈ styles.pixelLiterals ↔ ∃ id property value range,
          styles.value? id property = some value ∧ OccursAt value literal range)
      ∧ (∀ (styles : StyleMap) (table : TextMap) (id : NodeId) (property : String),
        (styles.replacePixels table).value? id property
          = (styles.value? id property).map (replace table))
      ∧ ∀ value : String, ∃ cut : Cut, value.toList = cut.textWith id
        ∧ ranges value = cut.ranges
        ∧ ∀ table, (replace table value).toList = cut.textWith (entryOf table) := by
  refine ⟨fun value => ⟨pairwise_rangesFrom _ _, fun range => mem_ranges_iff, ?_⟩,
    fun styles => ⟨pairwise_pixelLiterals styles, fun literal => mem_pixelLiterals_iff⟩,
    fun styles table id property => value?_mapValues _ styles id property, exists_cut⟩
  rintro literal range ⟨before, after, rfl, hstands, rfl⟩
  have hbytes := utf8Length_pos hstands.isLiteral.ne_nil
  rw [← utf8ByteSize_ofList, String.ofList_toList] at hbytes
  refine ⟨Nat.lt_add_of_pos_right hbytes, ?_⟩
  have hvalue := hstands.isLiteral.isSome_value?
  rwa [String.ofList_toList] at hvalue

end SceneCompiler.StyleMap
