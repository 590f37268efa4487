import SceneCompiler.Text.Class
/-!
# Token expressions

How a text refers to a token: `var(--name)` with an optional fallback, or a name with an optional
sigil. A name starts with an ASCII letter, an underscore or a dash, and goes on with those, digits
and points.
-/

namespace SceneCompiler

/-- A reference to a token. -/
structure TokenExpression where
  name : String
  fallback : Option String := none
deriving DecidableEq, Repr

namespace TokenExpression

def isNameChar (c : Char) : Bool :=
  isIdentChar c || c == '.'

def takeName? : List Char → Option (List Char × List Char)
  | c :: s =>
    if isIdentStart c then some (c :: s.takeWhile isNameChar, s.dropWhile isNameChar) else none
  | [] => none

/-- Splits before the closing parenthesis that has no partner in the text; `depth` parentheses are
open. -/
def takeBalanced? (depth : Nat) : List Char → Option (List Char × List Char)
  | [] => none
  | c :: s =>
    if c = ')' ∧ depth = 0 then some ([], c :: s)
    else
      let next := if c = '(' then depth + 1 else if c = ')' then depth - 1 else depth
      (takeBalanced? next s).map fun (taken, rest) => (c :: taken, rest)

/-- The opening of a reference, up to the dashes before the name. -/
def dropOpening? (s : List Char) : Option (List Char) := do
  let s ← stripStart? "var(".toList s
  stripStart? "--".toList (s.dropWhile isBlank)

/-- The fallback after a comma; without one, or when no parenthesis closes it, there is none. -/
def takeFallback (s : List Char) : Option (List Char) × List Char :=
  match s with
  | ',' :: r =>
    match takeBalanced? 0 (r.dropWhile isBlank) with
    | some (taken, rest) => (some taken, rest)
    | none => (none, s)
  | _ => (none, s)

/-- Reads `var(--name)` or `var(--name, fallback)`. A blank fallback is none. -/
def readReference? (s : List Char) : Option (TokenExpression × List Char) := do
  let s ← dropOpening? s
  let (name, s) ← takeName? s
  let (fallback, s) := takeFallback (s.dropWhile isBlank)
  match s with
  | ')' :: rest =>
    let fallback := (fallback.map trimChars).filter (· ≠ [])
    return (⟨String.ofList name, fallback.map String.ofList⟩, rest)
  | _ => none

/-- Drops a leading `--`, `$` or `@`. -/
def dropSigil : List Char → List Char
  | '-' :: '-' :: s => s
  | '$' :: s => s
  | '@' :: s => s
  | s => s

def readName? (s : List Char) : Option (TokenExpression × List Char) :=
  (takeName? (dropSigil s)).map fun (name, rest) => (⟨String.ofList name, none⟩, rest)

/-- Reads a text that, white space around it apart, is one reference and nothing else. -/
def parse? (text : String) : Option TokenExpression :=
  let s := trimChars text.toList
  let read := if "var(".toList.isPrefixOf s then readReference? s else readName? s
  match read with
  | some (expression, []) => some expression
  | _ => none

/-- If a text starts with `var(--name`, the opening before the name, the name, and the rest. -/
def referenceStart? (s : List Char) : Option (List Char × List Char × List Char) := do
  let body ← dropOpening? s
  let (name, rest) ← takeName? body
  return (s.take (s.length - body.length), name, rest)

end TokenExpression

end SceneCompiler
