import Std.Data.ExtTreeSet
import SceneCompiler.Number.Decimal
import SceneCompiler.Style.Basic
/-!
# Pixel literals

Lengths in pixels inside style values, such as `12px` or `-0.5px`. A literal stands alone: no
identifier and no point goes right before it, and no identifier right after it.
-/

namespace SceneCompiler.Pixels

/-- How many characters a number with the unit takes up at the start of a text, if there is one:
`-`, digits, a point with digits, and `px`, where the sign and the fraction may be missing. -/
def literalLength? (s : List Char) : Option Nat :=
  let (sign, body) := match s with
    | '-' :: r => (1, r)
    | r => (0, r)
  let whole := body.takeWhile Char.isDigit
  let rest := body.dropWhile Char.isDigit
  let (fraction, rest) := match rest with
    | '.' :: r =>
      let digits := r.takeWhile Char.isDigit
      if digits.isEmpty then (0, rest) else (digits.length + 1, r.dropWhile Char.isDigit)
    | _ => (0, rest)
  match rest with
  | 'p' :: 'x' :: after =>
    if whole.isEmpty || after.head?.any isIdentChar then none
    else some (sign + whole.length + fraction + 2)
  | _ => none

/-- The literal at a place, by its length; `before` is the character in front of the place. -/
def literalAt? (before : Option Char) (s : List Char) : Option Nat :=
  if before.any fun c => isIdentChar c || c == '.' then none else literalLength? s

/-- A stretch of a style value: one literal, or one character outside of literals. -/
inductive Piece where
  | literal (text : List Char)
  | other (c : Char)
deriving DecidableEq

def Piece.text : Piece → List Char
  | literal text => text
  | other c => [c]

/-- Cuts a text into pieces; the next `skip` characters belong to a literal that was found. -/
def piecesFrom (before : Option Char) : Nat → List Char → List Piece
  | _, [] => []
  | skip + 1, c :: s => piecesFrom (some c) skip s
  | 0, c :: s =>
    match literalAt? before (c :: s) with
    | some length => .literal ((c :: s).take length) :: piecesFrom (some c) (length - 1) s
    | none => .other c :: piecesFrom (some c) 0 s

/-- Cuts a value into literals and other characters. -/
def pieces (value : String) : List Piece :=
  piecesFrom none 0 value.toList

/-- The places of the literals among pieces that start at a byte offset. -/
def rangesFrom (offset : Nat) : List Piece → List (Nat × Nat)
  | [] => []
  | .literal text :: rest =>
    (offset, offset + utf8Length text) :: rangesFrom (offset + utf8Length text) rest
  | .other c :: rest => rangesFrom (offset + c.utf8Size) rest

/-- The byte ranges of the literals in a value, in order. -/
def ranges (value : String) : List (Nat × Nat) :=
  rangesFrom 0 (pieces value)

def literals (value : String) : List String :=
  (pieces value).filterMap fun
    | .literal text => some (String.ofList text)
    | .other _ => none

/-- The value of a literal in pixels: any number in front of the unit. -/
def value? (literal : String) : Option Float32 :=
  (stripEnd? "px".toList literal.toList).bind readSingle?

def replace (replacements : TextMap) (value : String) : String :=
  String.ofList ((pieces value).flatMap fun
    | .literal text =>
      match replacements[String.ofList text]? with
      | some other => other.toList
      | none => text
    | .other c => [c])

end SceneCompiler.Pixels

namespace SceneCompiler.StyleMap

/-- The literals of all values, in order and each once. -/
def pixelLiterals (styles : StyleMap) : List String :=
  (Std.ExtTreeSet.ofList ((values styles).flatMap Pixels.literals)).toList

/-- Puts other texts in the place of literals, in every value. -/
def replacePixels (replacements : TextMap) (styles : StyleMap) : StyleMap :=
  mapValues (Pixels.replace replacements) styles

end SceneCompiler.StyleMap
