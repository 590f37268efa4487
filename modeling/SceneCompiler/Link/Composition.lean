import SceneCompiler.Link.MarkTable
import SceneCompiler.Text.Class
/-!
# Letters with marks

A letter with marks can be written as one character or as several. In names each letter takes in its
marks as far as there are characters for that, after the marks have been ordered by their classes
(normalization form C). Hangul syllables take in their vowels and final consonants by arithmetic.
-/

namespace SceneCompiler.Link

/-! ### Marks -/

/-- The combining class of a mark; `none` for other characters. -/
def markClass? (c : Char) : Option Nat :=
  if c.toNat < 0x300 then none
  else
    let marks :=
      if c.toNat < 0x1000 then marksLow else if c.toNat < 0x10000 then marksMiddle else marksHigh
    (marks.find? fun (first, last, _) => first ≤ c.toNat && c.toNat ≤ last).map (·.2.2)

/-- Characters that belong to the one before them. -/
def isMark (c : Char) : Bool :=
  (markClass? c).isSome

/-- Marks that are drawn on their letter and take up no room of their own. -/
def isNonspacing (c : Char) : Bool :=
  isMark c && !inRanges spacingMarks c.toNat

/-- The combining class of a character: 0 if no mark moves past it. -/
def combiningClass (c : Char) : Nat :=
  (markClass? c).getD 0

/-- Puts a mark in front of the marks of its class and of higher classes that begin a text. -/
def insertMark (c : Char) : List Char → List Char
  | d :: s =>
    if 0 < combiningClass d && combiningClass d < combiningClass c then d :: insertMark c s
    else c :: d :: s
  | [] => [c]

/-- Orders the marks on each letter by their classes; marks of one class stay in order. -/
def orderMarks (s : List Char) : List Char :=
  s.foldr insertMark []

/-! ### Hangul -/

def firstSyllable : Nat :=
  0xAC00

/-- The place of a syllable: 21 vowels go with a consonant and 28 endings with a vowel. -/
def syllablePlace? (c : Char) : Option Nat :=
  if firstSyllable ≤ c.toNat && c.toNat < firstSyllable + 19 * 21 * 28 then
    some (c.toNat - firstSyllable)
  else none

/-- The place of a character in a range of `count` characters. -/
def placeIn? (first count : Nat) (c : Char) : Option Nat :=
  if first ≤ c.toNat && c.toNat < first + count then some (c.toNat - first) else none

/-- The syllable of two characters: a consonant and a vowel, or a syllable and an ending. -/
def joinSyllable? (a b : Char) : Option Char :=
  match placeIn? 0x1100 19 a, placeIn? 0x1161 21 b with
  | some consonant, some vowel => some (Char.ofNat (firstSyllable + (consonant * 21 + vowel) * 28))
  | _, _ =>
    match syllablePlace? a, placeIn? 0x11A8 27 b with
    | some place, some ending =>
      if place % 28 = 0 then some (Char.ofNat (a.toNat + ending + 1)) else none
    | _, _ => none

/-- The consonant, the vowel and the ending of a syllable at a place. -/
def splitSyllable (place : Nat) : List Char :=
  [Char.ofNat (0x1100 + place / 588), Char.ofNat (0x1161 + place % 588 / 28)] ++
    if place % 28 = 0 then [] else [Char.ofNat (0x11A7 + place % 28)]

/-! ### Letters -/

/-- The letter that stands for a letter and a mark. -/
def markedLetter? (letter mark : Char) : Option Char :=
  if mark.toNat < 0x300 then none
  else markedLetters.findSome? fun (m, plain, marked) =>
    if m = mark.toNat then (plain.toList.zip marked.toList).lookup letter else none

/-- The letter and the mark that a letter stands for. -/
def unmarkedLetter? (c : Char) : Option (Char × Char) :=
  if c.toNat < 0x80 then none
  else markedLetters.findSome? fun (m, plain, marked) =>
    ((marked.toList.zip plain.toList).lookup c).map (·, Char.ofNat m)

/-- A letter without its marks, and the marks. `marks` bounds how many it can have. -/
def splitLetter : Nat → Char → List Char
  | 0, c => [c]
  | marks + 1, c =>
    match unmarkedLetter? c with
    | some (letter, mark) => splitLetter marks letter ++ [mark]
    | none => [c]

/-- A character as letters and marks of their own. No character holds more than two marks. -/
def splitChar (c : Char) : List Char :=
  match syllablePlace? c with
  | some place => splitSyllable place
  | none => splitLetter 2 c

def joinChars? (a b : Char) : Option Char :=
  joinSyllable? a b <|> markedLetter? a b

/-- Lets a letter take in the marks behind it. `passed` are the marks that it did not take, which
keep later marks of their class away from it. -/
def joinFrom (letter : Char) (passed : List Char) : List Char → List Char
  | [] => letter :: passed
  | c :: s =>
    let free := passed.getLast?.all (combiningClass · < combiningClass c)
    match if free then joinChars? letter c else none with
    | some joined => joinFrom joined passed s
    | none =>
      if combiningClass c = 0 then letter :: passed ++ joinFrom c [] s
      else joinFrom letter (passed ++ [c]) s

/-- A text in which each letter has taken in its marks. -/
def compose (s : List Char) : List Char :=
  match orderMarks (s.flatMap splitChar) with
  | [] => []
  | c :: rest => joinFrom c [] rest

end SceneCompiler.Link
