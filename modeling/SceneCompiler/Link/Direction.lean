import SceneCompiler.Link.Composition
import SceneCompiler.Link.DirectionTable
import SceneCompiler.Text.Class
/-!
# Names in both directions

In a name with letters that run from right to left each label has to keep together when the name is
drawn: it starts with a letter, all its letters run the way of the first one, and it ends in a
letter or a digit (RFC 5893).
-/

namespace SceneCompiler.Link

/-- Which way a character runs. -/
inductive Direction where
  | leftToRight
  | rightToLeft
  /-- Digits of Arabic script. -/
  | arabicNumber
  /-- Other digits. -/
  | number
  /-- Marks, which run with the letter that they belong to. -/
  | mark
  /-- Symbols and punctuation, which run with the text around them. -/
  | neutral
deriving DecidableEq, Repr

def direction (c : Char) : Direction :=
  let n := c.toNat
  if n < 0x80 then
    if c.isAlpha then .leftToRight else if c.isDigit then .number else .neutral
  else if isNonspacing c then if inRanges leftToRightMarks n then .leftToRight else .mark
  else if inRanges rightToLeftRanges n then .rightToLeft
  else if inRanges arabicNumberRanges n then .arabicNumber
  else if inRanges numberRanges n then .number
  else if inRanges neutralRanges n then .neutral
  else .leftToRight

/-- A character with which a name runs in both directions. -/
def turnsDirection (c : Char) : Bool :=
  direction c = .rightToLeft || direction c = .arabicNumber

/-- Whether characters behind the first one fit a label that runs from left to right. `parts` are
their directions, without the marks at the end. -/
def fitsLeftToRight (parts : List Direction) : Bool :=
  parts.all (fun d => d ≠ .rightToLeft && d ≠ .arabicNumber) &&
    parts.getLast?.all fun d => d = .leftToRight || d = .number

/-- Whether characters behind the first one fit a label that runs from right to left: its digits are
of one kind. `parts` are their directions, without the marks at the end. -/
def fitsRightToLeft (parts : List Direction) : Bool :=
  parts.all (· ≠ .leftToRight) &&
    !(parts.contains .number && parts.contains .arabicNumber) &&
    parts.getLast?.all fun d => d = .rightToLeft || d = .number || d = .arabicNumber

/-- A label keeps together in a name that runs in both directions. -/
def keepsTogether (label : List Char) : Bool :=
  match label.map direction with
  | [] => true
  | .leftToRight :: rest => fitsLeftToRight ((rest.reverse.dropWhile (· = .mark)).reverse)
  | .rightToLeft :: rest => fitsRightToLeft ((rest.reverse.dropWhile (· = .mark)).reverse)
  | _ => false

end SceneCompiler.Link
