import SceneCompiler.Text.Letter
/-!
# Checking plugin sources

A plugin may not mention certain globals. The check first masks the source: the contents of comments
and of string, template and regular-expression literals become blanks, while the expressions inside
templates stay. Then every identifier that is left is looked up, unless a point before it makes it
the name of a member.

The mask is made character by character by a small machine (`Mask.step`), so that the masked source
has as many characters as the source.
-/

namespace SceneCompiler

/-! ### Errors -/

/-- What a source can leave open at its end. -/
inductive Unterminated where
  | comment
  | string
  | regex
  | template
deriving DecidableEq, Repr

/-- Why a source is refused. -/
inductive SourceError where
  | unterminated (what : Unterminated)
  | disallowed (word : String)
deriving DecidableEq, Repr

def SourceError.message : SourceError → String
  | .unterminated .comment => "unterminated comment"
  | .unterminated .string => "unterminated string literal"
  | .unterminated .regex => "unterminated regular expression"
  | .unterminated .template => "unterminated template literal"
  | .disallowed word => "`" ++ word ++ "` is not allowed"

/-! ### Words -/

/-- Characters of identifiers: letters and numbers of all scripts, underscore, dollar sign. -/
def isScriptIdentChar (c : Char) : Bool :=
  isLetterOrNumber c || c == '_' || c == '$'

/-- The globals that a plugin may not mention. -/
def disallowedGlobals : List String :=
  ["import", "require", "fetch", "XMLHttpRequest", "WebSocket", "setTimeout", "setInterval", "eval",
    "Function", "document", "window", "globalThis"]

/-- The words after which a slash opens a regular expression. -/
def regexPreceders : List String :=
  ["return", "typeof", "case", "do", "else", "in", "of", "new", "delete", "void", "throw",
    "instanceof", "yield", "await"]

/-! ### The mask -/

namespace Mask

/-- What the machine is inside of. -/
inductive Mode where
  | code
  | lineComment
  /-- The star that opens a comment comes next. -/
  | blockOpening
  | block
  /-- The slash that closes a comment comes next. -/
  | blockClosing
  | quoted (quote : Char)
  /-- Inside a regular expression, perhaps inside a class of characters. -/
  | regex (inClass : Bool)
  | template
  /-- The brace that opens an expression inside a template comes next. -/
  | templateOpening
  /-- The character after a backslash comes next. -/
  | escaped (inside : Mode)
deriving DecidableEq, Repr

/-- The state of the machine. -/
structure State where
  mode : Mode := .code
  /-- The depth of braces at which each open template expression started, the innermost first. -/
  templates : List Nat := []
  /-- How many braces are open. -/
  depth : Nat := 0
  /-- The masked source so far, the last character first. -/
  emitted : List Char := []
deriving DecidableEq, Repr

/-- The blank that stands for a character: line feeds stay. -/
def blank (c : Char) : Char :=
  if c = '\n' then '\n' else ' '

/-- A slash after the code masked so far opens a regular expression: at the start, after all but
closing brackets and identifiers, and after some words. -/
def regexAllowed (emitted : List Char) : Bool :=
  let code := emitted.dropWhile isWhite
  match code with
  | [] => true
  | c :: _ =>
    if c = ')' ∨ c = ']' then false
    else if isScriptIdentChar c then
      regexPreceders.contains (String.ofList (code.takeWhile isScriptIdentChar).reverse)
    else true

namespace State

def keep (s : State) (c : Char) (mode : Mode) : State :=
  { s with mode, emitted := c :: s.emitted }

def mask (s : State) (c : Char) (mode : Mode) : State :=
  s.keep (blank c) mode

end State

def stepCode (s : State) (c : Char) (next : Option Char) : State :=
  if c = '/' ∧ next = some '/' then s.mask c .lineComment
  else if c = '/' ∧ next = some '*' then s.mask c .blockOpening
  else if c = '/' ∧ regexAllowed s.emitted then s.keep c (.regex false)
  else if c = '\'' ∨ c = '"' then s.keep c (.quoted c)
  else if c = '\x60' then s.keep c .template
  else if c = '\x7b' then { s with depth := s.depth + 1 }.keep c .code
  else if c = '\x7d' then
    match s.templates with
    | opened :: outer =>
      if opened + 1 = s.depth then
        { s with templates := outer, depth := s.depth - 1 }.keep c .template
      else { s with depth := s.depth - 1 }.keep c .code
    | [] => { s with depth := s.depth - 1 }.keep c .code
  else s.keep c .code

/-- One step: the character `c`, with a look at the one after it. -/
def step (s : State) (c : Char) (next : Option Char) : Except Unterminated State :=
  match s.mode with
  | .code => .ok (stepCode s c next)
  | .lineComment => .ok (if c = '\n' then s.keep c .code else s.mask c .lineComment)
  | .blockOpening => .ok (s.mask c .block)
  | .block => .ok (s.mask c (if c = '*' ∧ next = some '/' then .blockClosing else .block))
  | .blockClosing => .ok (s.mask c .code)
  | .quoted quote =>
    if c = '\\' then .ok (s.mask c (.escaped s.mode))
    else if c = '\n' then .error .string
    else if c = quote then .ok (s.keep c .code)
    else .ok (s.mask c s.mode)
  | .regex inClass =>
    if c = '\\' then .ok (s.mask c (.escaped s.mode))
    else if c = '\n' then .error .regex
    else if c = '/' ∧ !inClass then .ok (s.keep c .code)
    else .ok (s.mask c (.regex (if c = '[' then true else if c = ']' then false else inClass)))
  | .template =>
    if c = '\\' then .ok (s.mask c (.escaped s.mode))
    else if c = '\x60' then .ok (s.keep c .code)
    else if c = '$' ∧ next = some '\x7b' then .ok (s.keep c .templateOpening)
    else .ok (s.mask c .template)
  | .templateOpening =>
    .ok ({ s with templates := s.depth :: s.templates, depth := s.depth + 1 }.keep c .code)
  | .escaped inside => .ok (s.mask c inside)

def run (s : State) : List Char → Except Unterminated State
  | [] => .ok s
  | c :: rest => do run (← step s c rest.head?) rest

/-- What a mode leaves open at the end of a source. -/
def Mode.open? : Mode → Option Unterminated
  | code | lineComment => none
  | blockOpening | block | blockClosing => some .comment
  | quoted _ => some .string
  | regex _ => some .regex
  | template | templateOpening => some .template
  | escaped inside => inside.open?

/-- What a state leaves open at the end of a source: the mode, or an expression inside a template.
-/
def State.open? (s : State) : Option Unterminated :=
  s.mode.open? <|> if s.templates.isEmpty then none else some .template

end Mask

/-- The source with the contents of comments and literals replaced by blanks. -/
def maskLiterals (source : List Char) : Except Unterminated (List Char) := do
  let s ← Mask.run {} source
  match s.open? with
  | some what => .error what
  | none => .ok s.emitted.reverse

/-! ### Identifiers -/

/-- An identifier with the text before it, the last character first. -/
structure ScriptIdentifier where
  before : List Char
  name : List Char

namespace ScriptIdentifier

/-- A word is an identifier unless it starts with a digit. `word` has its last character first. -/
def ofWord (before word : List Char) : List ScriptIdentifier :=
  match word.reverse with
  | [] => []
  | c :: name => if c.isDigit then [] else [⟨before, c :: name⟩]

/-- The identifiers of a text, given the text before the current word, and that word. -/
def allFrom (before word : List Char) : List Char → List ScriptIdentifier
  | [] => ofWord before word
  | c :: s =>
    if isScriptIdentChar c then allFrom before (c :: word) s
    else ofWord before word ++ allFrom (c :: (word ++ before)) [] s

def all (masked : List Char) : List ScriptIdentifier :=
  allFrom [] [] masked

/-- The identifier names a member: a point comes before it, which is not the last of three. -/
def isMember (i : ScriptIdentifier) : Bool :=
  match i.before.dropWhile isWhite with
  | '.' :: '.' :: '.' :: _ => false
  | '.' :: _ => true
  | _ => false

/-- The identifier mentions a global that is not allowed. -/
def isDisallowed (i : ScriptIdentifier) : Bool :=
  !i.isMember && disallowedGlobals.contains (String.ofList i.name)

end ScriptIdentifier

/-- Refuses a source that cannot be masked or mentions a global that is not allowed. -/
def checkSource (source : String) : Except SourceError Unit :=
  match maskLiterals source.toList with
  | .error what => .error (.unterminated what)
  | .ok masked =>
    match (ScriptIdentifier.all masked).find? (·.isDisallowed) with
    | some i => .error (.disallowed (String.ofList i.name))
    | none => .ok ()

end SceneCompiler
