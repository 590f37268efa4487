import Mathlib
import SceneCompiler.Plugin.Source
/-!
# Literals of the mask

Wherever the mask leaves code it goes over a literal: a string, a chunk of a template, a regular
expression or a comment. A literal has an opening, contents, and a closing. What its contents may be
is stated here character by character, for each mode of the mask inside of a literal.

* `Contents`, `Literal.Scanned`: what is scanned as a literal.
* `run_contents`, `exists_run_literal`: the mask goes over a literal.
* `Recognized`: literals of a source.
* `exists_recognized`: the mask of a source without open ends leaves code at literals only.
-/

namespace SceneCompiler.Mask

/-! ## Stopping on the way -/

/-- Runs the machine over a text, given the character that comes after the text. -/
def runTo (s : State) (next : Option Char) : List Char → Except Unterminated State
  | [] => .ok s
  | c :: rest => do runTo (← step s c (rest.head?.or next)) next rest

theorem run_append (s : State) (text rest : List Char) :
    run s (text ++ rest) = (runTo s rest.head? text).bind fun t => run t rest := by
  induction text generalizing s with
  | nil => rfl
  | cons c text ih =>
    rw [List.cons_append, run, runTo, List.head?_append]
    cases step s c (text.head?.or rest.head?) with
    | error what => rfl
    | ok t => exact ih t

theorem run_cons {s t : State} {c : Char} {rest : List Char} (h : step s c rest.head? = .ok t) :
    run s (c :: rest) = run t rest := by
  rw [run, h]
  rfl

theorem exists_step_of_run {s t : State} {c : Char} {rest : List Char}
    (h : run s (c :: rest) = .ok t) :
    ∃ u, step s c rest.head? = .ok u ∧ run u rest = .ok t := by
  cases hstep : step s c rest.head? with
  | error what =>
    rw [run, hstep] at h
    cases h
  | ok u => exact ⟨u, rfl, (run_cons hstep).symm.trans h⟩

theorem mode_open?_of_open? {s : State} (h : s.open? = none) : s.mode.open? = none := by
  unfold State.open? at h
  cases hmode : s.mode.open? with
  | none => rfl
  | some what =>
    rw [hmode] at h
    cases h

/-- A source is masked when the machine ends with nothing open. -/
theorem maskLiterals_eq_ok_iff {source masked : List Char} : maskLiterals source = .ok masked ↔
    ∃ t, run {} source = .ok t ∧ t.open? = none ∧ masked = t.emitted.reverse := by
  unfold maskLiterals
  cases run {} source with
  | error what => simp [bind, Except.bind]
  | ok t => cases hopen : t.open? <;> simp [bind, Except.bind, hopen, eq_comm]

/-! ## Contents -/

inductive LiteralKind where
  | string (quote : Char)
  /-- A part of a template without expressions. -/
  | chunk
  | regex
  | lineComment
  | blockComment
deriving DecidableEq, Repr

/-- The mode between the opening and the closing. -/
def LiteralKind.inside : LiteralKind → Mode
  | string quote => .quoted quote
  | chunk => .template
  | regex => .regex false
  | lineComment => .lineComment
  | blockComment => .block

/-- A backslash takes the next character with it. -/
def Mode.escapes : Mode → Bool
  | quoted _ | regex _ | template => true
  | _ => false

/-- The kind of literal that a mode is inside of. -/
def Mode.kind? : Mode → Option LiteralKind
  | quoted quote => some (.string quote)
  | template => some .chunk
  | regex _ => some .regex
  | lineComment => some .lineComment
  | block => some .blockComment
  | escaped inside => if inside.escapes then inside.kind? else none
  | code | blockOpening | blockClosing | templateOpening => none

/-- A character of the contents, with the mode before and after it. It depends on the next one
whether a star ends a comment and a dollar sign ends a part of a template. -/
inductive Passes (next : Option Char) : Mode → Char → Mode → Prop where
  | lineComment {c : Char} (hfeed : c ≠ '\n') : Passes next .lineComment c .lineComment
  | block {c : Char} (hcloses : ¬ (c = '*' ∧ next = some '/')) : Passes next .block c .block
  | quoted {quote c : Char} (hc : c ∉ ['\\', '\n', quote]) :
      Passes next (.quoted quote) c (.quoted quote)
  | regex {inClass : Bool} {c : Char} (hc : c ∉ ['\\', '\n'])
      (hcloses : ¬ (c = '/' ∧ inClass = false)) : Passes next (.regex inClass) c
        (.regex (if c = '[' then true else if c = ']' then false else inClass))
  | template {c : Char} (hc : c ∉ ['\\', '\x60']) (hopens : ¬ (c = '$' ∧ next = some '\x7b')) :
      Passes next .template c .template
  | backslash {mode : Mode} (hescapes : mode.escapes = true) :
      Passes next mode '\\' (.escaped mode)
  | escaped {mode : Mode} {c : Char} : Passes next (.escaped mode) c mode

/-- What may stand in a literal from a mode inside of it up to the closing. -/
inductive Contents (kind : LiteralKind) : Mode → List Char → Prop where
  | nil : Contents kind kind.inside []
  | cons {mode mode' : Mode} {c : Char} {s : List Char} (hc : Passes s.head? mode c mode')
      (hs : Contents kind mode' s) : Contents kind mode (c :: s)

section Passing

variable {s t : State} {next : Option Char} {mode mode' : Mode} {c : Char} {rest text : List Char}
  {kind : LiteralKind}

theorem step_of_passes (h : Passes next s.mode c mode') :
    step s c next = .ok (s.mask c mode') := by
  obtain ⟨mode, templates, depth, emitted⟩ := s
  cases h with
  | lineComment hfeed => simp [step, hfeed]
  | block hcloses => simp [step, hcloses]
  | quoted hc =>
    simp only [List.mem_cons, List.not_mem_nil, not_or, or_false] at hc
    simp [step, hc]
  | regex hc hcloses =>
    simp only [List.mem_cons, List.not_mem_nil, not_or, or_false] at hc
    simp [step, hc, hcloses]
  | template hc hopens =>
    simp only [List.mem_cons, List.not_mem_nil, not_or, or_false] at hc
    simp [step, hc, hopens]
  | backslash hescapes =>
    show step ⟨mode, templates, depth, emitted⟩ '\\' next = _
    cases mode with
    | quoted | regex | template => rfl
    | code | lineComment | blockOpening | block | blockClosing | templateOpening | escaped =>
      cases hescapes
  | escaped => rfl

/-- With less to see ahead, the same characters pass. -/
theorem Passes.ahead_none (h : Passes next mode c mode') : Passes none mode c mode' := by
  cases h with
  | lineComment hfeed => exact .lineComment hfeed
  | block => exact .block (by simp)
  | quoted hc => exact .quoted hc
  | regex hc hcloses => exact .regex hc hcloses
  | template hc => exact .template hc (by simp)
  | backslash hescapes => exact .backslash hescapes
  | escaped => exact .escaped

/-- With more to see ahead, the same characters pass, unless a closing of two characters stands
there. -/
theorem Passes.ahead (h : Passes none mode c mode')
    (hslash : mode' = .block → next ≠ some '/') (hbrace : mode' = .template → next ≠ some '\x7b') :
    Passes next mode c mode' := by
  cases h with
  | lineComment hfeed => exact .lineComment hfeed
  | block => exact .block fun h => hslash rfl h.2
  | quoted hc => exact .quoted hc
  | regex hc hcloses => exact .regex hc hcloses
  | template hc => exact .template hc fun h => hbrace rfl h.2
  | backslash hescapes => exact .backslash hescapes
  | escaped => exact .escaped

theorem Contents.of_cons (h : Contents kind mode (c :: text)) :
    ∃ mode', Passes text.head? mode c mode' ∧ Contents kind mode' text := by
  cases h with
  | cons hc hs => exact ⟨_, hc, hs⟩

theorem Contents.eq_inside (h : Contents kind mode []) : mode = kind.inside := by
  cases h
  rfl

/-- The mask goes over contents, of which it emits the blanks. -/
theorem run_contents (h : Contents kind s.mode text)
    (hslash : kind.inside = .block → rest.head? ≠ some '/')
    (hbrace : kind.inside = .template → rest.head? ≠ some '\x7b') :
    run s (text ++ rest) = run { s with
      mode := kind.inside, emitted := (text.map blank).reverse ++ s.emitted } rest := by
  -- One step emits one blank; only at the last character the text after the contents is seen.
  induction text generalizing s with
  | nil =>
    rw [← h.eq_inside]
    rfl
  | cons c text ih =>
    obtain ⟨mode', hc, hs⟩ := h.of_cons
    have hahead : Passes (text ++ rest).head? s.mode c mode' := by
      cases text with
      | nil =>
        rw [hs.eq_inside] at hc ⊢
        exact hc.ahead hslash hbrace
      | cons d text => exact hc
    rw [List.cons_append, run_cons (step_of_passes hahead), ih hs]
    simp [State.mask, State.keep]

end Passing

/-! ## Literals -/

structure Literal where
  kind : LiteralKind
  opening : List Char
  contents : List Char
  closing : List Char
deriving DecidableEq, Repr

namespace LiteralKind

/-- What opens a literal in code. A brace opens a chunk where it closes an expression in a template,
and a slash opens a regular expression where it is no division. -/
def Opens (s : State) (opening : List Char) : LiteralKind → Prop
  | string quote => quote ∈ ['\'', '"'] ∧ opening = [quote]
  | chunk => opening = ['\x60'] ∨
      opening = ['\x7d'] ∧ ∃ opened outer, s.templates = opened :: outer ∧ opened + 1 = s.depth
  | regex => opening = ['/'] ∧ regexAllowed s.emitted = true
  | lineComment => opening = ['/', '/']
  | blockComment => opening = ['/', '*']

/-- What closes a literal, with the text after it: a comment to the end of the line may be the end
of the source. -/
def Closes (closing after : List Char) : LiteralKind → Prop
  | string quote => closing = [quote]
  | chunk => closing = ['\x60'] ∨ closing = ['$', '\x7b']
  | regex => closing = ['/']
  | lineComment => closing = ['\n'] ∨ closing = [] ∧ after = []
  | blockComment => closing = ['*', '/']

def isComment : LiteralKind → Bool
  | lineComment | blockComment => true
  | _ => false

/-- What the mask leaves of an opening or a closing: those of comments become blanks too. -/
def shown (kind : LiteralKind) (s : List Char) : List Char :=
  if kind.isComment then s.map blank else s

end LiteralKind

namespace Literal

def text (l : Literal) : List Char :=
  l.opening ++ (l.contents ++ l.closing)

def masked (l : Literal) : List Char :=
  l.kind.shown l.opening ++ (l.contents.map blank ++ l.kind.shown l.closing)

/-- After its opening the literal is scanned up to its closing. -/
structure Scanned (l : Literal) (after : List Char) : Prop where
  contents : Contents l.kind l.kind.inside l.contents
  closes : l.kind.Closes l.closing after
  /-- Two slashes, or a slash and a star, are the opening of a comment. -/
  not_comment : l.kind = .regex → ∀ c ∈ (l.contents ++ l.closing).head?, c ≠ '/' ∧ c ≠ '*'

end Literal

/-- The literal between two texts is recognized by the mask. -/
def Recognized (before : List Char) (l : Literal) (after : List Char) : Prop :=
  ∃ s, runTo {} l.opening.head? before = .ok s ∧ s.mode = .code ∧ l.kind.Opens s l.opening ∧
    l.Scanned after

/-! ## The mask over a literal -/

section Running

variable {s : State} {kind : LiteralKind} {opening closing after : List Char}

theorem run_opening (hcode : s.mode = .code) (h : kind.Opens s opening) :
    ∃ t : State, t.mode = kind.inside ∧ t.emitted = (kind.shown opening).reverse ++ s.emitted ∧
      ∀ rest : List Char, (kind = .regex → ∀ c ∈ rest.head?, c ≠ '/' ∧ c ≠ '*') →
        run s (opening ++ rest) = run t rest := by
  obtain ⟨mode, templates, depth, emitted⟩ := s
  cases hcode
  cases kind with
  | string quote =>
    obtain ⟨hquote, rfl⟩ := h
    refine ⟨_, ?_, ?_, fun rest _ => run_cons (t := ⟨.quoted quote, templates, depth,
      quote :: emitted⟩) ?_⟩
    · rfl
    · rfl
    · rcases List.mem_pair.mp hquote with rfl | rfl <;> rfl
  | chunk =>
    rcases h with rfl | ⟨rfl, opened, outer, htemplates, hdepth⟩
    · exact ⟨_, rfl, rfl, fun rest _ => run_cons (t := ⟨.template, templates, depth,
        '\x60' :: emitted⟩) rfl⟩
    · dsimp only at htemplates hdepth
      subst htemplates hdepth
      refine ⟨_, ?_, ?_, fun rest _ => run_cons (t := ⟨.template, outer, opened,
        '\x7d' :: emitted⟩) ?_⟩
      · rfl
      · rfl
      · simp [step, stepCode, State.keep]
  | regex =>
    obtain ⟨rfl, hallowed⟩ := h
    refine ⟨⟨.regex false, templates, depth, '/' :: emitted⟩, rfl, rfl, fun rest hrest => ?_⟩
    have hslash : rest.head? ≠ some '/' := fun h => (hrest rfl '/' h).1 rfl
    have hstar : rest.head? ≠ some '*' := fun h => (hrest rfl '*' h).2 rfl
    refine run_cons ?_
    dsimp only at hallowed
    simp [step, stepCode, hslash, hstar, hallowed, State.keep]
  | lineComment =>
    cases h
    exact ⟨⟨.lineComment, templates, depth, ' ' :: ' ' :: emitted⟩, rfl, rfl, fun rest _ => rfl⟩
  | blockComment =>
    cases h
    exact ⟨⟨.block, templates, depth, ' ' :: ' ' :: emitted⟩, rfl, rfl, fun rest _ => rfl⟩

theorem run_closing (hmode : s.mode = kind.inside) (h : kind.Closes closing after)
    (hquote : ∀ quote, kind = .string quote → quote ∈ ['\'', '"']) :
    ∃ t : State, ∀ emitted, run { s with emitted } (closing ++ after) =
      run { t with emitted := (kind.shown closing).reverse ++ emitted } after := by
  obtain ⟨mode, templates, depth, _⟩ := s
  cases hmode
  cases kind with
  | string quote =>
    cases h
    refine ⟨⟨.code, templates, depth, []⟩, fun emitted => run_cons ?_⟩
    rcases List.mem_pair.mp (hquote quote rfl) with rfl | rfl <;> rfl
  | chunk =>
    rcases h with rfl | rfl
    · exact ⟨⟨.code, templates, depth, []⟩, fun emitted => rfl⟩
    · exact ⟨⟨.code, depth :: templates, depth + 1, []⟩, fun emitted => rfl⟩
  | regex =>
    cases h
    exact ⟨⟨.code, templates, depth, []⟩, fun emitted => rfl⟩
  | lineComment =>
    rcases h with rfl | ⟨rfl, rfl⟩
    · exact ⟨⟨.code, templates, depth, []⟩, fun emitted => rfl⟩
    · exact ⟨⟨.lineComment, templates, depth, []⟩, fun emitted => rfl⟩
  | blockComment =>
    cases h
    exact ⟨⟨.code, templates, depth, []⟩, fun emitted => rfl⟩

/-- No closing starts with the second character of another one. -/
theorem head?_closing (h : kind.Closes closing after) :
    (kind.inside = .block → (closing ++ after).head? ≠ some '/') ∧
      (kind.inside = .template → (closing ++ after).head? ≠ some '\x7b') := by
  cases kind with
  | chunk => rcases h with rfl | rfl <;> simp
  | blockComment =>
    cases h
    simp [LiteralKind.inside]
  | string | regex | lineComment => simp [LiteralKind.inside]

/-- After a literal the machine goes on in the same way whatever the contents: only what it has
emitted differs. -/
theorem exists_run_literal {l : Literal} (hcode : s.mode = .code)
    (hopens : l.kind.Opens s l.opening) (hcloses : l.kind.Closes l.closing after) :
    ∃ t : State, ∀ contents, { l with contents }.Scanned after →
      run s ({ l with contents }.text ++ after) =
        run { t with emitted := { l with contents }.masked.reverse ++ s.emitted } after := by
  -- Neither the state behind the opening nor the one behind the closing depends on the contents.
  obtain ⟨u, hmode, hemitted, hopening⟩ := run_opening hcode hopens
  have hquote : ∀ quote, l.kind = .string quote → quote ∈ ['\'', '"'] := by
    intro quote hkind
    rw [hkind] at hopens
    exact hopens.1
  obtain ⟨t, hclosing⟩ := run_closing hmode hcloses hquote
  obtain ⟨hslash, hbrace⟩ := head?_closing hcloses
  refine ⟨t, fun contents h => ?_⟩
  -- The closing of a regular expression is not empty, so that the text after it is not seen.
  have hfirst : l.kind = .regex → ∀ c ∈ (contents ++ (l.closing ++ after)).head?,
      c ≠ '/' ∧ c ≠ '*' := by
    intro hkind c hc
    have hne : l.closing ≠ [] := by
      rw [hkind] at hcloses
      intro hnil
      rw [hnil] at hcloses
      cases hcloses
    refine h.not_comment hkind c ?_
    rw [← List.append_assoc, List.head?_append_of_ne_nil _ (by simp [hne])] at hc
    exact hc
  have hcontents : Contents l.kind u.mode contents := hmode ▸ h.contents
  have hmasked : { l with contents }.masked.reverse ++ s.emitted =
      (l.kind.shown l.closing).reverse ++ ((contents.map blank).reverse ++ u.emitted) := by
    simp [Literal.masked, hemitted]
  have htext : { l with contents }.text ++ after =
      l.opening ++ (contents ++ (l.closing ++ after)) := by
    simp [Literal.text]
  have hinside : { u with
      mode := l.kind.inside, emitted := (contents.map blank).reverse ++ u.emitted } =
        { u with emitted := (contents.map blank).reverse ++ u.emitted } := by
    rw [← hmode]
  calc run s ({ l with contents }.text ++ after)
      = run u (contents ++ (l.closing ++ after)) := by rw [htext, hopening _ hfirst]
    _ = run { u with emitted := (contents.map blank).reverse ++ u.emitted }
          (l.closing ++ after) := by rw [run_contents hcontents hslash hbrace, hinside]
    _ = _ := by rw [hclosing, hmasked]

end Running

/-! ## All literals -/

/-- After some text the mask is in code, and not any more after the next character. -/
def LeavesCode (before rest : List Char) : Prop :=
  ∃ c tail s t, rest = c :: tail ∧ runTo {} (some c) before = .ok s ∧ s.mode = .code ∧
    step s c tail.head? = .ok t ∧ t.mode ≠ .code

section Recognizing

variable {s t : State} {mode mode' : Mode} {next : Option Char} {c : Char} {rest text : List Char}
  {kind : LiteralKind}

/-- Inside of a literal a character passes, or the closing starts with it. -/
theorem passes_or_closes (hkind : s.mode.kind? = some kind) (h : step s c rest.head? = .ok t) :
    (Passes rest.head? s.mode c t.mode ∧ t.mode.kind? = some kind) ∨
      s.mode = kind.inside ∧
        ∃ closing after, c :: rest = closing ++ after ∧ kind.Closes closing after := by
  have hpass : ∀ {mode : Mode}, Passes rest.head? s.mode c mode → mode.kind? = some kind →
      Passes rest.head? s.mode c t.mode ∧ t.mode.kind? = some kind := by
    intro mode hpasses hmode
    rw [step_of_passes hpasses] at h
    obtain rfl := Except.ok.inj h
    exact ⟨hpasses, hmode⟩
  by_cases hescape : s.mode.escapes = true ∧ c = '\\'
  · obtain ⟨hescapes, rfl⟩ := hescape
    refine Or.inl (hpass (.backslash hescapes) ?_)
    rw [Mode.kind?, if_pos hescapes]
    exact hkind
  obtain ⟨mode, templates, depth, emitted⟩ := s
  cases mode with
  | code | blockOpening | blockClosing | templateOpening => cases hkind
  | lineComment =>
    obtain rfl := Option.some.inj hkind
    by_cases hfeed : c = '\n'
    · exact Or.inr ⟨rfl, [c], rest, rfl, Or.inl (by rw [hfeed])⟩
    · exact Or.inl (hpass (.lineComment hfeed) rfl)
  | block =>
    obtain rfl := Option.some.inj hkind
    by_cases hcloses : c = '*' ∧ rest.head? = some '/'
    · obtain ⟨rfl, hslash⟩ := hcloses
      obtain ⟨after, rfl⟩ := List.head?_eq_some_iff.mp hslash
      exact Or.inr ⟨rfl, ['*', '/'], after, rfl, rfl⟩
    · exact Or.inl (hpass (.block hcloses) rfl)
  | quoted quote =>
    obtain rfl := Option.some.inj hkind
    have hback : c ≠ '\\' := fun heq => hescape ⟨rfl, heq⟩
    by_cases hfeed : c = '\n'
    · simp [step, hfeed] at h
    by_cases hquote : c = quote
    · exact Or.inr ⟨rfl, [c], rest, rfl, by rw [hquote]; rfl⟩
    · exact Or.inl (hpass (.quoted (by simp [hback, hfeed, hquote])) rfl)
  | regex inClass =>
    obtain rfl := Option.some.inj hkind
    have hback : c ≠ '\\' := fun heq => hescape ⟨rfl, heq⟩
    by_cases hfeed : c = '\n'
    · simp [step, hfeed] at h
    by_cases hcloses : c = '/' ∧ inClass = false
    · obtain ⟨rfl, rfl⟩ := hcloses
      exact Or.inr ⟨rfl, ['/'], rest, rfl, rfl⟩
    · exact Or.inl (hpass (.regex (by simp [hback, hfeed]) hcloses) rfl)
  | template =>
    obtain rfl := Option.some.inj hkind
    have hback : c ≠ '\\' := fun heq => hescape ⟨rfl, heq⟩
    by_cases htick : c = '\x60'
    · exact Or.inr ⟨rfl, [c], rest, rfl, Or.inl (by rw [htick])⟩
    by_cases hopens : c = '$' ∧ rest.head? = some '\x7b'
    · obtain ⟨rfl, hbrace⟩ := hopens
      obtain ⟨after, rfl⟩ := List.head?_eq_some_iff.mp hbrace
      exact Or.inr ⟨rfl, ['$', '\x7b'], after, rfl, Or.inr rfl⟩
    · exact Or.inl (hpass (.template (by simp [hback, htick]) hopens) rfl)
  | escaped inside =>
    refine Or.inl (hpass .escaped ?_)
    simp only [Mode.kind?] at hkind
    split at hkind
    · exact hkind
    · cases hkind

/-- At the end of a source only comments to the end of the line may be open. -/
theorem lineComment_of_open? (hkind : mode.kind? = some kind) (hopen : mode.open? = none) :
    mode = .lineComment ∧ kind = .lineComment := by
  cases mode with
  | lineComment => exact ⟨rfl, (Option.some.inj hkind).symm⟩
  | code => cases hkind
  | escaped inside =>
    cases inside with
    | quoted | regex | template => cases hopen
    | code | lineComment | blockOpening | block | blockClosing | templateOpening | escaped =>
      cases hkind
  | blockOpening | block | blockClosing | quoted | regex | template | templateOpening => cases hopen

/-- Inside of a literal the mask reaches its closing, or there is something open at the end. -/
theorem exists_contents (hkind : s.mode.kind? = some kind) (h : run s rest = .ok t)
    (hopen : t.open? = none) : ∃ contents closing after, rest = contents ++ (closing ++ after) ∧
      Contents kind s.mode contents ∧ kind.Closes closing after := by
  -- A character that passes goes in front of the contents of the rest.
  induction rest generalizing s with
  | nil =>
    obtain rfl := Except.ok.inj h
    obtain ⟨hmode, rfl⟩ := lineComment_of_open? hkind (mode_open?_of_open? hopen)
    rw [hmode]
    exact ⟨[], [], [], rfl, .nil, Or.inr ⟨rfl, rfl⟩⟩
  | cons c rest ih =>
    obtain ⟨u, hstep, hrun⟩ := exists_step_of_run h
    rcases passes_or_closes hkind hstep with ⟨hpasses, hkind'⟩ | ⟨hinside, closing, after, hsplit,
      hcloses⟩
    · obtain ⟨contents, closing, after, rfl, hcontents, hcloses⟩ := ih hkind' hrun
      have hahead : Passes contents.head? s.mode c u.mode := by
        cases contents with
        | nil => exact hpasses.ahead_none
        | cons d contents => exact hpasses
      exact ⟨c :: contents, closing, after, rfl, .cons hahead hcontents, hcloses⟩
    · rw [hinside]
      exact ⟨[], closing, after, hsplit, .nil, hcloses⟩

/-- What takes the mask out of code is an opening. -/
theorem exists_opening (hcode : s.mode = .code) (h : step s c rest.head? = .ok t)
    (hleaves : t.mode ≠ .code) : ∃ (kind : LiteralKind) (opening rest' : List Char),
      c :: rest = opening ++ rest' ∧ opening.head? = some c ∧ kind.Opens s opening ∧
        (kind = .regex → ∀ d ∈ rest'.head?, d ≠ '/' ∧ d ≠ '*') := by
  have hstep : stepCode s c rest.head? = t := by
    rw [step, hcode] at h
    exact Except.ok.inj h
  subst hstep
  unfold stepCode at hleaves
  split_ifs at hleaves with h₁ h₂ h₃ h₄ h₅ h₆ h₇
  · obtain ⟨rfl, hnext⟩ := h₁
    obtain ⟨rest', rfl⟩ := List.head?_eq_some_iff.mp hnext
    exact ⟨.lineComment, ['/', '/'], rest', rfl, rfl, rfl, nofun⟩
  · obtain ⟨rfl, hnext⟩ := h₂
    obtain ⟨rest', rfl⟩ := List.head?_eq_some_iff.mp hnext
    exact ⟨.blockComment, ['/', '*'], rest', rfl, rfl, rfl, nofun⟩
  · obtain ⟨rfl, hallowed⟩ := h₃
    refine ⟨.regex, ['/'], rest, rfl, rfl, ⟨rfl, hallowed⟩, fun _ d hd => ⟨?_, ?_⟩⟩
    · rintro rfl
      exact h₁ ⟨rfl, hd⟩
    · rintro rfl
      exact h₂ ⟨rfl, hd⟩
  · exact ⟨.string c, [c], rest, rfl, rfl, ⟨List.mem_pair.mpr h₄, rfl⟩, nofun⟩
  · subst h₅
    exact ⟨.chunk, ['\x60'], rest, rfl, rfl, Or.inl rfl, nofun⟩
  · exact absurd rfl hleaves
  · subst h₇
    -- The brace closes the innermost expression.
    split at hleaves
    · next opened outer htemplates =>
      split_ifs at hleaves with hdepth
      · exact ⟨.chunk, ['\x7d'], rest, rfl, rfl,
          Or.inr ⟨rfl, opened, outer, htemplates, hdepth⟩, nofun⟩
      · exact absurd rfl hleaves
    · exact absurd rfl hleaves
  · exact absurd rfl hleaves

/-- Wherever the mask of a source leaves code, it recognizes a literal. -/
theorem exists_recognized {before : List Char} {masked : List Char}
    (haccepted : maskLiterals (before ++ rest) = .ok masked) (h : LeavesCode before rest) :
    ∃ l after, rest = l.text ++ after ∧ Recognized before l after := by
  obtain ⟨c, tail, s, t, rfl, hreach, hcode, hstep, hleaves⟩ := h
  obtain ⟨kind, opening, rest', hsplit, hhead, hopens, hfirst⟩ := exists_opening hcode hstep hleaves
  obtain ⟨u, hmode, -, hopening⟩ := run_opening hcode hopens
  -- The source ends with nothing open, so the literal has a closing.
  obtain ⟨last, hrun, hopen, -⟩ := maskLiterals_eq_ok_iff.mp haccepted
  have hreach' : runTo {} (c :: tail).head? before = .ok s := hreach
  rw [run_append, hreach'] at hrun
  replace hrun : run u rest' = .ok last := by
    rw [← hopening rest' hfirst, ← hsplit]
    exact hrun
  have hkind : u.mode.kind? = some kind := by
    rw [hmode]
    cases kind <;> rfl
  obtain ⟨contents, closing, after, rfl, hcontents, hcloses⟩ := exists_contents hkind hrun hopen
  rw [hmode] at hcontents
  have hne : kind = .regex → closing ≠ [] := by
    rintro rfl hnil
    rw [hnil] at hcloses
    cases hcloses
  refine ⟨⟨kind, opening, contents, closing⟩, after, ?_, s, ?_, hcode, hopens, hcontents, hcloses,
    fun hregex d hd => hfirst hregex d ?_⟩
  · rw [hsplit, Literal.text, List.append_assoc, List.append_assoc]
  · show runTo {} opening.head? before = .ok s
    rw [hhead]
    exact hreach
  · rw [← List.append_assoc, List.head?_append_of_ne_nil _ (by simp [hne hregex])]
    exact hd

end Recognizing

end SceneCompiler.Mask
