import SceneCompiler.Link.Composition
import SceneCompiler.Link.JoiningTable
import SceneCompiler.Text.Class
/-!
# Joiners

Two characters without a form of their own, one that joins the letters around it and one that keeps
them apart. Names may contain them only where they change how the letters around them look
(RFC 5892, appendix A).
-/

namespace SceneCompiler.Link

/-- The character that keeps letters apart. -/
def nonJoiner : Char := '\u200c'

/-- The character that joins letters. -/
def joiner : Char := '\u200d'

def joinsNext (c : Char) : Bool :=
  inRanges bothSidesRanges c.toNat || inRanges leftSideRanges c.toNat

def joinsPrevious (c : Char) : Bool :=
  inRanges bothSidesRanges c.toNat || inRanges rightSideRanges c.toNat

/-- Characters through which letters join: marks, and a letter of Adlam that is drawn like one. -/
def isTransparent (c : Char) : Bool :=
  isNonspacing c || c.toNat == 0x1E94B

/-- The first letter of a text, past what letters join through, has a property. -/
def firstLetter (p : Char → Bool) (s : List Char) : Bool :=
  (s.dropWhile isTransparent).head?.any p

/-- A sign that takes the vowel of the letter before it away. -/
def silencesVowel (c : Char) : Bool :=
  combiningClass c = 9

/-- Every joiner stands behind a sign that takes a vowel away, or keeps apart two letters that would
join. `before` is the text up to here, backwards. -/
def joinersFit (before : List Char) : List Char → Bool
  | [] => true
  | c :: s =>
    (if c = nonJoiner then
        before.head?.any silencesVowel ||
          (firstLetter joinsNext before && firstLetter joinsPrevious s)
      else if c = joiner then before.head?.any silencesVowel
      else true) &&
      joinersFit (c :: before) s

end SceneCompiler.Link
