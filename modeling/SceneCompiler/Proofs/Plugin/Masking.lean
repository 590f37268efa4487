import Mathlib
import SceneCompiler.Proofs.Plugin.Contents
import SceneCompiler.Proofs.Plugin.Scanning
/-!
# What the mask leaves of a source

A source that can be masked is cut into pieces: characters of code, and literals. Its masked form
has the same characters at the same places, but for the contents of literals and for comments, of
which the blanks are left. On the way the mask keeps count of open braces, and of the count at which
each open expression inside a template started.

* `IsCut`: the pieces of a source, told without the mask but for what is emitted before a slash.
* `finishes_iff`: the mask gives what is left of the pieces.
* `nests_step`, `nests_runTo`: open expressions lie inside of each other, and inside of open braces.
* `maskLiterals_iff_masksInPlace`: which sources can be masked, and what is left of them.
-/

namespace SceneCompiler.Mask

open Script

/-! ## Definitions -/

/-- What a source is made of. -/
inductive Piece where
  | char (c : Char)
  | literal (l : Literal)

/-- What is open after a literal. A chunk may close the expression before it and open another. -/
def Literal.nest (stack : List Open) (l : Literal) : List Open :=
  (if l.closing = ['$', '\x7b'] then [.expression] else []) ++
    if l.opening = ['\x7d'] then stack.tail else stack

namespace Piece

def text : Piece → List Char
  | char c => [c]
  | literal l => l.text

/-- Code stays. -/
def masked : Piece → List Char
  | char c => [c]
  | literal l => l.masked

/-- What is open after a piece, the innermost first. -/
def nest (stack : List Open) : Piece → List Open
  | char c =>
    if c = '\x7b' then .brace :: stack else if c = '\x7d' then stack.tail else stack
  | literal l => l.nest stack

/-- A piece stands where it is: a literal starts where one opens, and ends where it closes. A
character of code is one that opens none. -/
def Stands (stack : List Open) (emitted after : List Char) : Piece → Prop
  | char c => c ∉ ['\'', '"', '\x60'] ∧
      (c = '/' → (∀ d ∈ after.head?, d ≠ '/' ∧ d ≠ '*') ∧ regexAllowed emitted = false) ∧
      (c = '\x7d' → stack.head? ≠ some .expression)
  | literal l => l.kind.Opens (scanned stack emitted .code) l.opening ∧ l.Scanned after

end Piece

/-- The pieces that a source is cut into, one after the other, with some braces open and some text
emitted before. No expression inside a template is open behind them. -/
def IsCut (stack : List Open) (emitted : List Char) : List Piece → Prop
  | [] => .expression ∉ stack
  | p :: rest => p.Stands stack emitted (rest.flatMap Piece.text) ∧
      IsCut (p.nest stack) (p.masked.reverse ++ emitted) rest

/-- The open expressions lie inside of each other, and inside of the open braces. -/
structure State.Nests (s : State) : Prop where
  increasing : s.templates.Pairwise (· > ·)
  below : ∀ opened ∈ s.templates, opened < s.depth

/-- A brace in code closes an open one. Where none is open it closes nothing, and is not inside of a
template. -/
def State.Closes (s t : State) : Prop :=
  t.depth + 1 = s.depth ∨ s.depth = 0 ∧ t.depth = 0 ∧ s.templates = [] ∧ t.templates = []

/-- What a mask may do to a source. -/
structure MasksInPlace (source masked : List Char) : Prop where
  length : masked.length = source.length
  inPlace : List.Forall₂ (fun c m => m = c ∨ m = blank c) source masked
  lines : ∀ i : Nat, masked[i]? = some '\n' ↔ source[i]? = some '\n'
  cut : ∃ pieces, IsCut [] [] pieces ∧ source = pieces.flatMap Piece.text
  shown : ∀ pieces, IsCut [] [] pieces → source = pieces.flatMap Piece.text →
    masked = pieces.flatMap Piece.masked
  nests : ∀ before after, source = before ++ after →
    ∃ s, runTo {} after.head? before = .ok s ∧ s.Nests ∧
      ∀ rest t, s.mode = .code → after = '\x7d' :: rest → step s '\x7d' rest.head? = .ok t →
        s.Closes t

/-! ## Pieces -/

/-- The mask of the rest of a source ends with nothing open. -/
def Finishes (s : State) (rest masked : List Char) : Prop :=
  ∃ t, run s rest = .ok t ∧ t.open? = none ∧ masked = t.emitted.reverse

section Pieces

variable {stack : List Open} {emitted after rest masked opening closing : List Char}
  {kind : LiteralKind} {c : Char}

/-- The depth at which the innermost expression started tells whether it is what a brace closes. -/
theorem expressionDepths_closes {stack : List Open} :
    (∃ opened outer, expressionDepths stack = opened :: outer ∧ opened + 1 = stack.length) ↔
      stack.head? = some .expression := by
  cases stack with
  | nil => simp [expressionDepths]
  | cons o stack =>
    cases o with
    | expression => simp [expressionDepths]
    | brace =>
      simp only [List.head?_cons, Option.some.injEq, reduceCtorEq, iff_false]
      rintro ⟨opened, outer, hdepths, hlength⟩
      have hlt : opened < stack.length := lt_of_mem_expressionDepths (by
        rw [show expressionDepths stack = opened :: outer from hdepths]
        exact List.mem_cons_self)
      rw [List.length_cons] at hlength
      omega

theorem run_opens (h : kind.Opens (scanned stack emitted .code) opening)
    (hrest : kind = .regex → ∀ c ∈ rest.head?, c ≠ '/' ∧ c ≠ '*') :
    run (scanned stack emitted .code) (opening ++ rest) =
      run (scanned (if opening = ['\x7d'] then stack.tail else stack)
        ((kind.shown opening).reverse ++ emitted) kind.inside) rest := by
  cases kind with
  | string quote =>
    obtain ⟨hquote, rfl⟩ := h
    rcases List.mem_pair.mp hquote with rfl | rfl <;> exact run_cons rfl
  | chunk =>
    rcases h with rfl | ⟨rfl, hcloses⟩
    · exact run_cons rfl
    · obtain ⟨stack, rfl⟩ := List.head?_eq_some_iff.mp (expressionDepths_closes.mp hcloses)
      exact run_resume
  | regex =>
    obtain ⟨rfl, hallowed⟩ := h
    have hslash : rest.head? ≠ some '/' := fun h => (hrest rfl '/' h).1 rfl
    have hstar : rest.head? ≠ some '*' := fun h => (hrest rfl '*' h).2 rfl
    replace hallowed : regexAllowed emitted = true := hallowed
    refine run_cons ?_
    simp [step, scanned, stepCode, hslash, hstar, hallowed, State.keep, LiteralKind.shown,
      LiteralKind.isComment, LiteralKind.inside]
  | lineComment | blockComment =>
    cases h
    rfl

theorem run_closes (h : kind.Closes closing after) (hne : closing ≠ [])
    (hquote : ∀ quote, kind = .string quote → quote ∈ ['\'', '"']) :
    run (scanned stack emitted kind.inside) (closing ++ after) =
      run (scanned ((if closing = ['$', '\x7b'] then [.expression] else []) ++ stack)
        ((kind.shown closing).reverse ++ emitted) .code) after := by
  cases kind with
  | string quote =>
    cases h
    rcases List.mem_pair.mp (hquote quote rfl) with rfl | rfl <;> exact run_cons rfl
  | chunk => rcases h with rfl | rfl <;> rfl
  | lineComment =>
    rcases h with rfl | ⟨rfl, -⟩
    · rfl
    · exact absurd rfl hne
  | regex | blockComment =>
    cases h
    rfl

theorem open?_scanned {mode : Mode} (hmode : mode.open? = none) :
    (scanned stack emitted mode).open? = none ↔ .expression ∉ stack := by
  have hdepths : (expressionDepths stack).isEmpty = true ↔ .expression ∉ stack := by
    induction stack with
    | nil => simp [expressionDepths]
    | cons o stack ih => cases o <;> simp [expressionDepths, ih]
  rw [← hdepths]
  simp [State.open?, scanned, hmode]

theorem finishes_nil {mode : Mode} (hmode : mode.open? = none) :
    Finishes (scanned stack emitted mode) [] masked ↔
      .expression ∉ stack ∧ masked = emitted.reverse := by
  rw [← open?_scanned hmode]
  constructor
  · rintro ⟨t, hrun, hopen, hmasked⟩
    obtain rfl := Except.ok.inj hrun
    exact ⟨hopen, hmasked⟩
  · rintro ⟨hopen, hmasked⟩
    exact ⟨_, rfl, hopen, hmasked⟩

theorem finishes_congr {s t : State} {source : List Char} (h : run s source = run t rest) :
    Finishes s source masked ↔ Finishes t rest masked := by
  unfold Finishes
  rw [h]

/-- The mask goes over a literal. -/
theorem finishes_literal {l : Literal}
    (hopens : l.kind.Opens (scanned stack emitted .code) l.opening) (hscanned : l.Scanned after) :
    Finishes (scanned stack emitted .code) (l.text ++ after) masked ↔
      Finishes (scanned (l.nest stack) (l.masked.reverse ++ emitted) .code) after masked := by
  obtain ⟨kind, opening, contents, closing⟩ := l
  obtain ⟨hcontents, hcloses, hfirst⟩ := hscanned
  dsimp only at *
  have hquote : ∀ quote, kind = .string quote → quote ∈ ['\'', '"'] := by
    rintro quote rfl
    exact hopens.1
  obtain ⟨hslash, hbrace⟩ := head?_closing hcloses
  have hnext : kind = .regex →
      ∀ c ∈ (contents ++ (closing ++ after)).head?, c ≠ '/' ∧ c ≠ '*' := fun hregex c hc => by
    have hne : closing ≠ [] := by
      rintro rfl
      rw [hregex] at hcloses
      cases hcloses
    refine hfirst hregex c ?_
    rwa [← List.append_assoc, List.head?_append_of_ne_nil _ (by simp [hne])] at hc
  have hstart := run_opens hopens hnext
  have hinside := run_contents (s := scanned (if opening = ['\x7d'] then stack.tail else stack)
      ((kind.shown opening).reverse ++ emitted) kind.inside) hcontents hslash hbrace
  have hmiddle := hstart.trans hinside
  rw [Literal.text, List.append_assoc, List.append_assoc, finishes_congr hmiddle]
  have hemitted : (Literal.masked ⟨kind, opening, contents, closing⟩).reverse ++ emitted =
      (kind.shown closing).reverse ++
        ((contents.map blank).reverse ++ ((kind.shown opening).reverse ++ emitted)) := by
    simp [Literal.masked]
  rw [hemitted, Literal.nest]
  by_cases hne : closing = []
  · -- Only a comment to the end of the line is closed by nothing, at the end of the source.
    subst hne
    obtain ⟨rfl, rfl⟩ : kind = .lineComment ∧ after = [] := by
      cases kind with
      | lineComment => simpa [LiteralKind.Closes] using hcloses
      | string | chunk | regex | blockComment => simp [LiteralKind.Closes] at hcloses
    exact (finishes_nil rfl).trans (finishes_nil rfl).symm
  · exact finishes_congr (run_closes hcloses hne hquote)

theorem finishes_piece {p : Piece} (h : p.Stands stack emitted after) :
    Finishes (scanned stack emitted .code) (p.text ++ after) masked ↔
      Finishes (scanned (p.nest stack) (p.masked.reverse ++ emitted) .code) after masked := by
  cases p with
  | literal l => exact finishes_literal h.1 h.2
  | char c =>
    obtain ⟨hquotes, hslash, hbrace⟩ := h
    refine finishes_congr ?_
    by_cases hopen : c = '\x7b'
    · subst hopen
      exact run_openBrace
    by_cases hclose : c = '\x7d'
    · subst hclose
      exact run_closeBrace (hbrace rfl)
    simp only [Piece.nest, hopen, hclose, if_false]
    by_cases hdivision : c = '/'
    · subst hdivision
      obtain ⟨hnext, hallowed⟩ := hslash rfl
      have hcomment : after.head? ≠ some '/' := fun h => (hnext '/' h).1 rfl
      have hstar : after.head? ≠ some '*' := fun h => (hnext '*' h).2 rfl
      refine run_cons ?_
      simp [step, scanned, stepCode, hcomment, hstar, hallowed, State.keep, Piece.masked]
    · have hplain : IsPlain c := by simpa [IsPlain, hopen, hclose, hdivision] using hquotes
      exact run_plain (List.forall_mem_singleton.mpr hplain)

/-- A character that leaves the mask in code opens no literal. -/
theorem stands_char (h : (stepCode (scanned stack emitted .code) c after.head?).mode = .code) :
    (Piece.char c).Stands stack emitted after := by
  refine ⟨fun hquote => ?_, ?_, ?_⟩
  · simp only [List.mem_cons, List.not_mem_nil, or_false] at hquote
    rcases hquote with rfl | rfl | rfl <;> cases h
  · rintro rfl
    refine ⟨fun d hd => ⟨?_, ?_⟩, ?_⟩
    · rintro rfl
      rw [Option.mem_def.mp hd] at h
      cases h
    · rintro rfl
      rw [Option.mem_def.mp hd] at h
      cases h
    · by_contra hallowed
      rw [Bool.not_eq_false] at hallowed
      have hregex : '/' = '/' ∧ regexAllowed (scanned stack emitted .code).emitted = true :=
        ⟨rfl, hallowed⟩
      rw [stepCode, if_pos hregex] at h
      split_ifs at h <;> cases h
  · rintro rfl hstack
    obtain ⟨stack, rfl⟩ := List.head?_eq_some_iff.mp hstack
    simp [stepCode, scanned, expressionDepths, State.keep] at h

/-- Where the rest of a source can be masked, it starts with a piece. -/
theorem exists_piece (h : Finishes (scanned stack emitted .code) (c :: rest) masked) :
    ∃ (p : Piece) (after : List Char),
      c :: rest = p.text ++ after ∧ p.Stands stack emitted after := by
  obtain ⟨t, hrun, hopen, -⟩ := h
  obtain ⟨u, hstep, hrest⟩ := exists_step_of_run hrun
  by_cases hcode : u.mode = .code
  · refine ⟨.char c, rest, rfl, ?_⟩
    obtain rfl : stepCode (scanned stack emitted .code) c rest.head? = u := Except.ok.inj hstep
    exact stands_char hcode
  · obtain ⟨kind, opening, rest', hsplit, -, hopens, hfirst⟩ := exists_opening rfl hstep hcode
    rw [hsplit, run_opens hopens hfirst] at hrun
    have hkind : kind.inside.kind? = some kind := by cases kind <;> rfl
    obtain ⟨contents, closing, after, rfl, hcontents, hcloses⟩ := exists_contents hkind hrun hopen
    have hne : kind = .regex → closing ≠ [] := by
      rintro rfl rfl
      cases hcloses
    refine ⟨.literal ⟨kind, opening, contents, closing⟩, after, ?_, hopens, hcontents, hcloses,
      fun hregex d hd => hfirst hregex d ?_⟩
    · rw [hsplit, Piece.text, Literal.text, List.append_assoc, List.append_assoc]
    · rw [← List.append_assoc, List.head?_append_of_ne_nil _ (by simp [hne hregex])]
      exact hd

theorem Piece.Stands.text_ne_nil {p : Piece} (h : p.Stands stack emitted after) : p.text ≠ [] := by
  cases p with
  | char c => exact List.cons_ne_nil c []
  | literal l =>
    have hopening := h.1.ne_nil
    simp [Piece.text, Literal.text, hopening]

/-- What the mask gives is what is left of the pieces. -/
theorem finishes_iff {source : List Char} : Finishes (scanned stack emitted .code) source masked ↔
    ∃ pieces, IsCut stack emitted pieces ∧ source = pieces.flatMap Piece.text ∧
      masked = emitted.reverse ++ pieces.flatMap Piece.masked := by
  constructor
  · intro h
    -- The first piece is taken off, and what is left of the source is shorter.
    induction hlength : source.length using Nat.strong_induction_on
      generalizing source stack emitted with
    | h n ih =>
      cases source with
      | nil =>
        obtain ⟨hstack, hmasked⟩ := (finishes_nil rfl).mp h
        exact ⟨[], hstack, rfl, by simpa using hmasked⟩
      | cons c rest =>
        obtain ⟨p, after, hsplit, hstands⟩ := exists_piece h
        rw [hsplit] at h hlength
        have hpos := List.length_pos_of_ne_nil hstands.text_ne_nil
        rw [List.length_append] at hlength
        obtain ⟨pieces, hcut, rfl, hmasked⟩ :=
          ih after.length (by omega) ((finishes_piece hstands).mp h) rfl
        refine ⟨p :: pieces, ⟨hstands, hcut⟩, hsplit, ?_⟩
        rw [hmasked]
        simp
  · rintro ⟨pieces, hcut, rfl, rfl⟩
    induction pieces generalizing stack emitted with
    | nil => exact (finishes_nil rfl).mpr ⟨hcut, by simp⟩
    | cons p pieces ih =>
      obtain ⟨hstands, hcut⟩ := hcut
      have hrest := ih hcut
      rw [List.flatMap_cons, List.flatMap_cons, finishes_piece hstands]
      simpa using hrest

/-- A source can be masked if it can be cut into pieces, and the mask is what is left of them. -/
theorem maskLiterals_eq_ok_iff_isCut {source : List Char} : maskLiterals source = .ok masked ↔
    ∃ pieces, IsCut [] [] pieces ∧ source = pieces.flatMap Piece.text ∧
      masked = pieces.flatMap Piece.masked := by
  rw [maskLiterals_eq_ok_iff]
  have hpieces : Finishes (scanned [] [] .code) source masked ↔ _ := finishes_iff
  exact hpieces

end Pieces

/-! ## Places -/

section Places

variable {s t : State} {source masked rest : List Char} {c : Char}

/-- The mask emits one character for each of the source, the same or its blank. -/
theorem forall₂_run (h : run s rest = .ok t) : ∃ post : List Char,
    t.emitted = post.reverse ++ s.emitted ∧
      List.Forall₂ (fun c m => m = c ∨ m = blank c) rest post := by
  induction rest generalizing s with
  | nil =>
    obtain rfl := Except.ok.inj h
    exact ⟨[], rfl, .nil⟩
  | cons c rest ih =>
    obtain ⟨u, hstep, hrun⟩ := exists_step_of_run h
    obtain ⟨d, hd, hemitted⟩ := emitted_step hstep
    obtain ⟨post, hpost, hrest⟩ := ih hrun
    refine ⟨d :: post, ?_, .cons hd hrest⟩
    rw [hpost, hemitted]
    simp

theorem forall₂_maskLiterals (h : maskLiterals source = .ok masked) :
    List.Forall₂ (fun c m => m = c ∨ m = blank c) source masked := by
  obtain ⟨t, hrun, -, rfl⟩ := maskLiterals_eq_ok_iff.mp h
  obtain ⟨post, hemitted, hpost⟩ := forall₂_run hrun
  rw [hemitted]
  simpa using hpost

/-- Line feeds stay where they are, and none is added. -/
theorem lineFeed_iff_of_forall₂ (h : List.Forall₂ (fun c m => m = c ∨ m = blank c) source masked)
    (i : Nat) : masked[i]? = some '\n' ↔ source[i]? = some '\n' := by
  have hblank : ∀ c m : Char, m = c ∨ m = blank c → (m = '\n' ↔ c = '\n') := by
    rintro c m (rfl | rfl)
    · rfl
    · unfold blank
      split <;> simp_all
  induction h generalizing i with
  | nil => rfl
  | cons hc _ ih =>
    cases i with
    | zero => simpa using hblank _ _ hc
    | succ i => simpa using ih i

end Places

/-! ## Open expressions -/

section Nesting

variable {s t : State} {next : Option Char} {c : Char}

theorem State.Nests.congr (h : s.Nests) (htemplates : t.templates = s.templates)
    (hdepth : t.depth = s.depth) : t.Nests :=
  ⟨htemplates ▸ h.increasing, hdepth ▸ htemplates ▸ h.below⟩

theorem nests_initial : ({} : State).Nests :=
  ⟨List.Pairwise.nil, by simp⟩

theorem nests_openBrace (h : s.Nests) : (stepCode s '\x7b' next).Nests :=
  ⟨h.increasing, fun opened hopened => Nat.lt_succ_of_lt (h.below opened hopened)⟩

/-- Where an expression is closed, the ones around it started at lower depths. Any other brace was
opened behind the start of the innermost expression. -/
theorem nests_closeBrace (h : s.Nests) : (stepCode s '\x7d' next).Nests := by
  obtain ⟨mode, templates, depth, emitted⟩ := s
  obtain ⟨hincreasing, hbelow⟩ := h
  cases templates with
  | nil => exact ⟨.nil, nofun⟩
  | cons opened outer =>
    have hopened : opened < depth := hbelow opened List.mem_cons_self
    have houter : ∀ o ∈ outer, o < opened := fun o ho => List.rel_of_pairwise_cons hincreasing ho
    show (if opened + 1 = depth then _ else _ : State).Nests
    split
    · refine ⟨hincreasing.tail, fun o ho => ?_⟩
      have hlt := houter o ho
      show o < depth - 1
      omega
    · refine ⟨hincreasing, fun o ho => ?_⟩
      show o < depth - 1
      rcases List.mem_cons.mp ho with rfl | ho
      · omega
      · have hlt := houter o ho
        omega

theorem nests_stepCode (h : s.Nests) (c : Char) (next : Option Char) :
    (stepCode s c next).Nests := by
  by_cases hopen : c = '\x7b'
  · subst hopen
    exact nests_openBrace h
  by_cases hclose : c = '\x7d'
  · subst hclose
    exact nests_closeBrace h
  -- No other character changes what is open.
  unfold stepCode
  rw [if_neg hopen, if_neg hclose]
  split_ifs
  all_goals exact h.congr rfl rfl

theorem nests_step (h : s.Nests) (hstep : step s c next = .ok t) : t.Nests := by
  obtain ⟨mode, templates, depth, emitted⟩ := s
  cases mode with
  | code =>
    obtain rfl := Except.ok.inj hstep
    exact nests_stepCode h c next
  | templateOpening =>
    obtain rfl := Except.ok.inj hstep
    obtain ⟨hincreasing, hbelow⟩ := h
    -- The new expression starts inside of all braces that are open.
    refine ⟨.cons hbelow hincreasing, fun opened hopened => ?_⟩
    rcases List.mem_cons.mp hopened with rfl | hopened
    · exact Nat.lt_succ_self _
    · exact Nat.lt_succ_of_lt (hbelow opened hopened)
  | lineComment | blockOpening | block | blockClosing | quoted | regex | template | escaped =>
    simp only [step] at hstep
    try split_ifs at hstep
    all_goals
      cases hstep
      try exact h.congr rfl rfl

theorem nests_runTo {text : List Char} (h : s.Nests) (hrun : runTo s next text = .ok t) :
    t.Nests := by
  induction text generalizing s with
  | nil =>
    obtain rfl := Except.ok.inj hrun
    exact h
  | cons c text ih =>
    rw [runTo] at hrun
    cases hstep : step s c (text.head?.or next) with
    | error what =>
      rw [hstep] at hrun
      cases hrun
    | ok u =>
      rw [hstep] at hrun
      exact ih (nests_step h hstep) hrun

theorem closes_step (h : s.Nests) (hcode : s.mode = .code) (hstep : step s '\x7d' next = .ok t) :
    s.Closes t := by
  obtain ⟨mode, templates, depth, emitted⟩ := s
  cases hcode
  obtain rfl := Except.ok.inj hstep
  cases templates with
  | nil =>
    cases depth with
    | zero => exact Or.inr ⟨rfl, rfl, rfl, rfl⟩
    | succ depth => exact Or.inl rfl
  | cons opened outer =>
    have hopened : opened < depth := h.below opened List.mem_cons_self
    refine Or.inl ?_
    have hdepth : (stepCode ⟨.code, opened :: outer, depth, emitted⟩ '\x7d' next).depth
        = depth - 1 := by
      show (if opened + 1 = depth then _ else _ : State).depth = depth - 1
      split <;> rfl
    rw [hdepth]
    show depth - 1 + 1 = depth
    omega

end Nesting

/-! ## Sources -/

theorem exists_runTo_of_run {before after : List Char} {t : State}
    (h : run {} (before ++ after) = .ok t) : ∃ s, runTo {} after.head? before = .ok s := by
  rw [run_append] at h
  cases hbefore : runTo {} after.head? before with
  | error what =>
    rw [hbefore] at h
    cases h
  | ok s => exact ⟨s, rfl⟩

/-- A source is masked in place, if it can be masked at all. -/
theorem maskLiterals_iff_masksInPlace (source masked : List Char) :
    maskLiterals source = .ok masked ↔ MasksInPlace source masked := by
  constructor
  · intro h
    have hplaces := forall₂_maskLiterals h
    obtain ⟨pieces, hcut, hsource, -⟩ := maskLiterals_eq_ok_iff_isCut.mp h
    refine ⟨hplaces.length_eq.symm, hplaces, lineFeed_iff_of_forall₂ hplaces,
      ⟨pieces, hcut, hsource⟩, ?_, ?_⟩
    · intro pieces hcut hsource
      have hmasked := maskLiterals_eq_ok_iff_isCut.mpr ⟨pieces, hcut, hsource, rfl⟩
      exact Except.ok.inj (h.symm.trans hmasked)
    · rintro before after rfl
      obtain ⟨t, hrun, -, -⟩ := maskLiterals_eq_ok_iff.mp h
      obtain ⟨s, hs⟩ := exists_runTo_of_run hrun
      have hnests : s.Nests := nests_runTo nests_initial hs
      refine ⟨s, hs, hnests, ?_⟩
      rintro rest t hcode rfl hstep
      exact closes_step hnests hcode hstep
  · intro h
    obtain ⟨pieces, hcut, hsource⟩ := h.cut
    exact maskLiterals_eq_ok_iff_isCut.mpr ⟨pieces, hcut, hsource, h.shown pieces hcut hsource⟩

/-- A division, a comment, and a template with a regular expression inside of it. -/
example : maskLiterals "a/b//c\n\x60d$\x7b/[/]e/\x7df\x60".toList =
    .ok "a/b   \n\x60 $\x7b/    /\x7d \x60".toList := by
  decide +kernel

end SceneCompiler.Mask
