import Mathlib
import SceneCompiler.Proofs.Plugin.Globals
import SceneCompiler.Proofs.Plugin.Literals
/-!
# Contents of literals do not matter

Two runs of the mask that differ in the contents of one literal emit texts that differ in one
stretch of blanks. All later decisions read the text that is emitted: slashes look for the last word
before them, and words for the points before them. No word and no point reaches over the start of a
literal, so the two runs go on in the same way, and the check finds the same words in what they
emit.

* `Alike`: texts that differ in one stretch of blanks.
* `regexAllowed_alike`, `mentions_alike`: what is read of such texts is the same.
* `run_agree`: the machine goes on in the same way.
* `checkSource_contents`: the check does not depend on the contents of literals.
-/

namespace SceneCompiler

/-! ## Texts that differ in blanks -/

namespace Mask

/-- A character at which words and rows of points end. -/
def IsEdge (c : Char) : Prop :=
  isScriptIdentChar c = false ∧ c ≠ '.'

instance (c : Char) : Decidable (IsEdge c) :=
  inferInstanceAs (Decidable (_ ∧ _))

def IsBlank (c : Char) : Prop :=
  IsEdge c ∧ isWhite c = true

/-- Two emitted texts, the last character first, that differ in one stretch of blanks. -/
inductive Alike : List Char → List Char → Prop where
  | blanks {b b' e : List Char} {d : Char} (hb : ∀ c ∈ b, IsBlank c) (hb' : ∀ c ∈ b', IsBlank c)
      (hd : IsEdge d) : Alike (b ++ d :: e) (b' ++ d :: e)
  | cons {x y : List Char} (c : Char) (h : Alike x y) : Alike (c :: x) (c :: y)

variable {x y : List Char} {c : Char}

theorem isBlank_blank (c : Char) : IsBlank (blank c) := by
  obtain ⟨hident, hwhite⟩ := Script.Element.blank_edges c
  refine ⟨⟨hident, ?_⟩, hwhite⟩
  intro hpoint
  rw [hpoint] at hwhite
  exact absurd hwhite (by decide)

theorem Alike.append (s : List Char) (h : Alike x y) : Alike (s ++ x) (s ++ y) := by
  induction s with
  | nil => exact h
  | cons c s ih => exact ih.cons c

/-- A row of characters that ends at edges is read the same. -/
theorem Alike.takeWhile_eq {p : Char → Bool} (hp : ∀ c, IsEdge c → p c = false) (h : Alike x y) :
    x.takeWhile p = y.takeWhile p := by
  induction h with
  | @blanks b b' e d hb hb' hd =>
    have hstop : ∀ {b : List Char}, (∀ c ∈ b, IsBlank c) → (b ++ d :: e).takeWhile p = [] := by
      intro b hb
      cases b with
      | nil => exact List.takeWhile_cons_of_neg (by simp [hp d hd])
      | cons c b =>
        have hc : IsBlank c := hb c List.mem_cons_self
        exact List.takeWhile_cons_of_neg (by simp [hp c hc.1])
    rw [hstop hb, hstop hb']
  | cons c _ ih => rw [List.takeWhile_cons, List.takeWhile_cons, ih]

/-- Behind white space the texts are the same, or start with the same character. -/
theorem Alike.dropWhile_isWhite (h : Alike x y) : x.dropWhile isWhite = y.dropWhile isWhite ∨
    ∃ c x' y', x.dropWhile isWhite = c :: x' ∧ y.dropWhile isWhite = c :: y' ∧ Alike x' y' := by
  induction h with
  | blanks hb hb' hd =>
    left
    rw [List.dropWhile_append_of_pos fun c hc => (hb c hc).2,
      List.dropWhile_append_of_pos fun c hc => (hb' c hc).2]
  | @cons x y c h ih =>
    cases hc : isWhite c with
    | true =>
      rw [List.dropWhile_cons_of_pos hc, List.dropWhile_cons_of_pos hc]
      exact ih
    | false =>
      rw [List.dropWhile_cons_of_neg (by simp [hc]), List.dropWhile_cons_of_neg (by simp [hc])]
      exact Or.inr ⟨c, x, y, rfl, rfl, h⟩

/-- A slash is taken for the same after both texts. -/
theorem regexAllowed_alike (h : Alike x y) : regexAllowed x = regexAllowed y := by
  unfold regexAllowed
  rcases h.dropWhile_isWhite with heq | ⟨c, x', y', hx, hy, h'⟩
  · rw [heq]
  · have hword : (c :: x').takeWhile isScriptIdentChar = (c :: y').takeWhile isScriptIdentChar :=
      (h'.cons c).takeWhile_eq fun c hc => hc.1
    rw [hx, hy]
    simp only [hword]

end Mask

/-! ## Mentions -/

namespace ScriptIdentifier

open Mask (Alike IsEdge IsBlank)

variable {x y s word before : List Char} {c : Char}

/-- An identifier is a member behind one point or two. -/
theorem isMember_iff (i : ScriptIdentifier) : i.isMember = true ↔
    ((i.before.dropWhile isWhite).takeWhile (· == '.')).length ∈ [1, 2] := by
  unfold isMember
  rcases i.before.dropWhile isWhite with _ | ⟨c, _ | ⟨d, _ | ⟨e, s⟩⟩⟩
  · simp
  · by_cases hc : c = '.' <;> simp [hc]
  · by_cases hc : c = '.' <;> by_cases hd : d = '.' <;> simp [hc, hd]
  · by_cases hc : c = '.' <;> by_cases hd : d = '.' <;> by_cases he : e = '.' <;>
      simp [hc, hd, he]

theorem isMember_alike (h : Alike x y) (name : List Char) :
    isMember ⟨x, name⟩ = isMember ⟨y, name⟩ := by
  have hpoints : (x.dropWhile isWhite).takeWhile (· == '.') =
      (y.dropWhile isWhite).takeWhile (· == '.') := by
    rcases h.dropWhile_isWhite with heq | ⟨c, x', y', hx, hy, h'⟩
    · rw [heq]
    · rw [hx, hy]
      exact (h'.cons c).takeWhile_eq fun c hc => by simp [hc.2]
  rw [Bool.eq_iff_iff, isMember_iff, isMember_iff]
  dsimp only
  rw [hpoints]

/-- What the check reads of an identifier: the name, and whether it names a member. -/
def mention (i : ScriptIdentifier) : List Char × Bool :=
  (i.name, i.isMember)

theorem map_mention_ofWord (h : Alike x y) (word : List Char) :
    (ofWord x word).map mention = (ofWord y word).map mention := by
  unfold ofWord
  split
  · rfl
  · next c name _ =>
    split
    · rfl
    · rw [List.map_singleton, List.map_singleton, mention, mention, isMember_alike h]

/-- Behind texts that are alike, the same text has the same mentions. -/
theorem map_mention_allFrom (h : Alike x y) (word s : List Char) :
    (allFrom x word s).map mention = (allFrom y word s).map mention := by
  -- Where a word ends, it goes onto both texts with the character after it.
  induction s generalizing x y word with
  | nil => exact map_mention_ofWord h word
  | cons c s ih =>
    rw [allFrom, allFrom]
    split
    · exact ih h (c :: word)
    · rw [List.map_append, List.map_append, map_mention_ofWord h, ih ((h.append word).cons c) []]

/-- Characters between words are gone past. -/
theorem allFrom_skip (h : ∀ c ∈ s, isScriptIdentChar c = false) (rest : List Char) :
    allFrom before [] (s ++ rest) = allFrom (s.reverse ++ before) [] rest := by
  induction s generalizing before with
  | nil => rfl
  | cons c s ih =>
    have hc : isScriptIdentChar c = false := h c List.mem_cons_self
    rw [List.cons_append, allFrom, hc, if_neg Bool.false_ne_true,
      ih fun d hd => h d (List.mem_cons_of_mem _ hd)]
    simp [ofWord]

/-- The words of a text behind an edge and some blanks. -/
theorem allFrom_blanks {b e : List Char} {d : Char} (hb : ∀ c ∈ b, IsBlank c) (hd : IsEdge d)
    (rest : List Char) : allFrom [] [] ((b ++ d :: e).reverse ++ rest) =
      allFrom [] [] e.reverse ++ allFrom (b ++ d :: e) [] rest := by
  have hskip : ∀ c ∈ b.reverse, isScriptIdentChar c = false := fun c hc =>
    (hb c (List.mem_reverse.mp hc)).1.1
  have hsplit : (b ++ d :: e).reverse ++ rest = e.reverse ++ d :: (b.reverse ++ rest) := by simp
  rw [hsplit, allFrom_append hd.1, List.reverse_reverse, allFrom_skip hskip, List.reverse_reverse,
    List.append_nil, List.append_nil]

/-- Texts that are alike have the same mentions, whatever comes after them. -/
theorem mentions_alike (h : Alike x y) (rest : List Char) :
    (allFrom [] [] (x.reverse ++ rest)).map mention =
      (allFrom [] [] (y.reverse ++ rest)).map mention := by
  -- The last character of the texts is the first one of what comes after the others.
  induction h generalizing rest with
  | blanks hb hb' hd =>
    rw [allFrom_blanks hb hd, allFrom_blanks hb' hd, List.map_append, List.map_append,
      map_mention_allFrom (.blanks hb hb' hd)]
  | cons c _ ih =>
    rw [List.reverse_cons, List.reverse_cons, List.append_assoc, List.append_assoc]
    exact ih ([c] ++ rest)

end ScriptIdentifier

/-! ## Two runs -/

namespace Mask

/-- Two states of the machine that differ in the blanks that they have emitted. -/
structure State.Alike (s t : State) : Prop where
  mode : s.mode = t.mode
  templates : s.templates = t.templates
  depth : s.depth = t.depth
  emitted : Mask.Alike s.emitted t.emitted

/-- Two outcomes: the same error, or states that are alike. -/
inductive Agree : Except Unterminated State → Except Unterminated State → Prop where
  | error (what : Unterminated) : Agree (.error what) (.error what)
  | ok {s t : State} (h : s.Alike t) : Agree (.ok s) (.ok t)

section Agreeing

variable {s t : State} {x y : List Char}

theorem State.Alike.keep (h : s.Alike t) (c : Char) (mode : Mode) :
    (s.keep c mode).Alike (t.keep c mode) :=
  ⟨rfl, h.templates, h.depth, h.emitted.cons c⟩

theorem stepCode_alike (h : s.Alike t) (c : Char) (next : Option Char) :
    (stepCode s c next).Alike (stepCode t c next) := by
  have hkeep : ∀ (templates : List Nat) (depth : Nat) (mode : Mode),
      ({ s with templates, depth }.keep c mode).Alike ({ t with templates, depth }.keep c mode) :=
    fun _ _ _ => ⟨rfl, rfl, rfl, h.emitted.cons c⟩
  unfold stepCode
  rw [regexAllowed_alike h.emitted, h.templates, h.depth]
  split_ifs
  any_goals exact h.keep _ _
  · exact hkeep t.templates (t.depth + 1) .code
  · -- A closing brace may end an expression inside a template.
    rcases t.templates with _ | ⟨opened, outer⟩
    · exact hkeep [] (t.depth - 1) .code
    · dsimp only
      split_ifs
      · exact hkeep outer (t.depth - 1) .template
      · exact hkeep (opened :: outer) (t.depth - 1) .code

/-- One step keeps two states alike: what it does is up to the mode, the character and the next one,
and in code up to how a slash is taken. -/
theorem step_agree (h : s.Alike t) (c : Char) (next : Option Char) :
    Agree (step s c next) (step t c next) := by
  have hkeep : ∀ d mode, Agree (.ok (s.keep d mode)) (.ok (t.keep d mode)) := fun d mode =>
    .ok (h.keep d mode)
  unfold step
  rw [h.mode]
  split
  · exact .ok (stepCode_alike h c next)
  · split_ifs
    · exact hkeep _ _
    · exact hkeep _ _
  · exact hkeep _ _
  · exact hkeep _ _
  · exact hkeep _ _
  · split_ifs
    any_goals exact hkeep _ _
    exact .error _
  · split_ifs
    any_goals exact hkeep _ _
    exact .error _
  · split_ifs
    all_goals exact hkeep _ _
  · rw [h.templates, h.depth]
    exact .ok ⟨rfl, rfl, rfl, h.emitted.cons c⟩
  · exact hkeep _ _

theorem Agree.bind {a b : Except Unterminated State} {f : State → Except Unterminated State}
    (h : Agree a b) (hf : ∀ s t : State, s.Alike t → Agree (f s) (f t)) :
    Agree (a.bind f) (b.bind f) := by
  cases h with
  | error what => exact .error what
  | ok h => exact hf _ _ h

/-- So does a run. -/
theorem run_agree (h : s.Alike t) (text : List Char) : Agree (run s text) (run t text) := by
  induction text generalizing s t with
  | nil => exact .ok h
  | cons c text ih => exact (step_agree h c text.head?).bind fun _ _ h => ih h

end Agreeing

theorem State.Alike.open?_eq {s t : State} (h : s.Alike t) : s.open? = t.open? := by
  rw [State.open?, State.open?, h.mode, h.templates]

/-- The first identifier that is not allowed is found by the mentions. -/
theorem map_mention_find? (l : List ScriptIdentifier) :
    (l.find? (·.isDisallowed)).map ScriptIdentifier.mention =
      (l.map ScriptIdentifier.mention).find? fun m =>
        !m.2 && disallowedGlobals.contains (String.ofList m.1) := by
  rw [List.find?_map]
  rfl

theorem map_name_find? {l l' : List ScriptIdentifier}
    (h : l.map ScriptIdentifier.mention = l'.map ScriptIdentifier.mention) :
    (l.find? (·.isDisallowed)).map (·.name) = (l'.find? (·.isDisallowed)).map (·.name) := by
  have hfound : (l.find? (·.isDisallowed)).map ScriptIdentifier.mention =
      (l'.find? (·.isDisallowed)).map ScriptIdentifier.mention := by
    rw [map_mention_find?, map_mention_find?, h]
  have hnames := congrArg (Option.map Prod.fst) hfound
  rw [Option.map_map, Option.map_map] at hnames
  exact hnames

/-- Two runs that agree both end with the same error, or emit texts with the same mentions. -/
theorem maskLiterals_agree {source source' : List Char}
    (h : Agree (run {} source) (run {} source')) :
    (∃ what, maskLiterals source = .error what ∧ maskLiterals source' = .error what) ∨
      ∃ masked masked', maskLiterals source = .ok masked ∧ maskLiterals source' = .ok masked' ∧
        (ScriptIdentifier.all masked).map ScriptIdentifier.mention =
          (ScriptIdentifier.all masked').map ScriptIdentifier.mention := by
  unfold maskLiterals
  generalize run {} source = a at h ⊢
  generalize run {} source' = b at h ⊢
  cases h with
  | error what => exact Or.inl ⟨what, rfl, rfl⟩
  | @ok s t h =>
    simp only [bind, Except.bind, h.open?_eq]
    cases t.open? with
    | some what => exact Or.inl ⟨what, rfl, rfl⟩
    | none =>
      have hmentions := ScriptIdentifier.mentions_alike h.emitted []
      rw [List.append_nil, List.append_nil] at hmentions
      exact Or.inr ⟨_, _, rfl, rfl, hmentions⟩

theorem checkSource_of_error {source : List Char} {what : Unterminated}
    (h : maskLiterals source = .error what) :
    checkSource (String.ofList source) = .error (.unterminated what) := by
  unfold checkSource
  rw [String.toList_ofList, h]

/-- The check answers with the name of the first identifier that is not allowed. -/
theorem checkSource_of_ok {source masked : List Char} (h : maskLiterals source = .ok masked) :
    checkSource (String.ofList source) =
      (((ScriptIdentifier.all masked).find? (·.isDisallowed)).map (·.name)).elim (.ok ())
        fun name => .error (.disallowed (String.ofList name)) := by
  unfold checkSource
  rw [String.toList_ofList, h]
  dsimp only
  cases (ScriptIdentifier.all masked).find? (·.isDisallowed) <;> rfl

/-- Of what the machine emits the check reads the mentions of identifiers only. -/
theorem checkSource_eq_of_agree {source source' : List Char}
    (h : Agree (run {} source) (run {} source')) :
    checkSource (String.ofList source) = checkSource (String.ofList source') := by
  rcases maskLiterals_agree h with ⟨what, hs, hs'⟩ | ⟨masked, masked', hs, hs', hmentions⟩
  · rw [checkSource_of_error hs, checkSource_of_error hs']
  · rw [checkSource_of_ok hs, checkSource_of_ok hs', map_name_find? hmentions]

/-! ## Literals with other contents -/

theorem LiteralKind.Opens.ne_nil {kind : LiteralKind} {s : State} {opening : List Char}
    (h : kind.Opens s opening) : opening ≠ [] := by
  rintro rfl
  cases kind with
  | string => cases h.2
  | regex => cases h.1
  | chunk => rcases h with h | ⟨h, -⟩ <;> cases h
  | lineComment | blockComment => cases h

theorem LiteralKind.Opens.exists_shown {kind : LiteralKind} {s : State} {opening : List Char}
    (h : kind.Opens s opening) : ∃ start d, kind.shown opening = start ++ [d] ∧ IsEdge d := by
  cases kind with
  | string quote =>
    obtain ⟨hquote, rfl⟩ := h
    refine ⟨[], quote, rfl, ?_⟩
    rcases List.mem_pair.mp hquote with rfl | rfl <;> decide
  | chunk =>
    rcases h with rfl | ⟨rfl, -⟩
    · exact ⟨[], '\x60', rfl, by decide⟩
    · exact ⟨[], '\x7d', rfl, by decide⟩
  | regex =>
    obtain ⟨rfl, -⟩ := h
    exact ⟨[], '/', rfl, by decide⟩
  | lineComment | blockComment =>
    cases h
    exact ⟨[' '], ' ', rfl, by decide⟩

/-- Literals of the same kind between the same ends leave texts that are alike. -/
theorem masked_alike {l : Literal} {s : State} (hopens : l.kind.Opens s l.opening)
    (contents : List Char) :
    Alike ({ l with contents }.masked.reverse ++ s.emitted) (l.masked.reverse ++ s.emitted) := by
  obtain ⟨start, d, hshown, hd⟩ := hopens.exists_shown
  have hblank : ∀ (contents : List Char), ∀ c ∈ (contents.map blank).reverse, IsBlank c := by
    intro contents c hc
    obtain ⟨e, -, rfl⟩ := List.mem_map.mp (List.mem_reverse.mp hc)
    exact isBlank_blank e
  have hsplit : ∀ contents, { l with contents }.masked.reverse ++ s.emitted =
      (l.kind.shown l.closing).reverse ++
        ((contents.map blank).reverse ++ d :: (start.reverse ++ s.emitted)) := by
    intro contents
    simp [Literal.masked, hshown]
  rw [hsplit contents, show l.masked = { l with contents := l.contents }.masked from rfl,
    hsplit l.contents]
  exact (Alike.blanks (hblank contents) (hblank l.contents) hd).append _

/-- Wherever the mask of a source leaves code, it recognizes a literal, and the check of the source
stays the same when the contents of a literal are replaced by others that are scanned alike. -/
theorem checkSource_contents (source : List Char)
    (haccepted : ∃ masked, maskLiterals source = .ok masked) :
    (∀ before rest, source = before ++ rest → LeavesCode before rest →
      ∃ l after, rest = l.text ++ after ∧ Recognized before l after) ∧
    ∀ before l after contents, source = before ++ (l.text ++ after) →
      Recognized before l after → { l with contents }.Scanned after →
      checkSource (String.ofList (before ++ ({ l with contents }.text ++ after))) =
        checkSource (String.ofList source) := by
  obtain ⟨masked, haccepted⟩ := haccepted
  refine ⟨?_, ?_⟩
  · rintro before rest rfl hleaves
    exact exists_recognized haccepted hleaves
  · rintro before l after contents rfl ⟨s, hreach, hcode, hopens, hscanned⟩ hscanned'
    -- Up to the literal the runs are one; behind it they go on alike.
    obtain ⟨t, hrun⟩ := exists_run_literal hcode hopens hscanned.closes
    have hreach' : ∀ contents, run {} (before ++ ({ l with contents }.text ++ after)) =
        run s ({ l with contents }.text ++ after) := by
      intro contents
      have hhead : ({ l with contents }.text ++ after).head? = l.opening.head? := by
        rw [Literal.text, List.append_assoc]
        exact List.head?_append_of_ne_nil _ hopens.ne_nil
      rw [run_append, hhead, hreach]
      rfl
    have hnew := (hreach' contents).trans (hrun contents hscanned')
    have hold := (hreach' l.contents).trans (hrun l.contents hscanned)
    have halike : State.Alike
        { t with emitted := { l with contents }.masked.reverse ++ s.emitted }
        { t with emitted := l.masked.reverse ++ s.emitted } :=
      ⟨rfl, rfl, rfl, masked_alike hopens contents⟩
    refine checkSource_eq_of_agree ?_
    rw [hnew, hold]
    exact run_agree halike after

/-- A comment between a point and a word inside a template may have any contents. -/
theorem checkSource_contents_in_template :
    checkSource "f(\x60$\x7bx./*'\n\x60fetch*/eval\x7d\x60)" =
      checkSource "f(\x60$\x7bx./*a*/eval\x7d\x60)" := by
  have haccepted : ∃ masked, maskLiterals "f(\x60$\x7bx./*a*/eval\x7d\x60)".toList = .ok masked :=
    ⟨"f(\x60$\x7bx.     eval\x7d\x60)".toList, rfl⟩
  have hrecognized : Recognized "f(\x60$\x7bx.".toList
      ⟨.blockComment, ['/', '*'], ['a'], ['*', '/']⟩ "eval\x7d\x60)".toList :=
    ⟨_, rfl, rfl, rfl, .cons (.block (by decide)) .nil, rfl, nofun⟩
  have hscanned : Literal.Scanned ⟨.blockComment, ['/', '*'], "'\n\x60fetch".toList, ['*', '/']⟩
      "eval\x7d\x60)".toList :=
    ⟨Script.contents_block (by decide +kernel), rfl, nofun⟩
  exact (checkSource_contents _ haccepted).2 _ _ _ _ rfl hrecognized hscanned

end Mask

end SceneCompiler
