import SceneCompiler.Scene.Node
/-!
# Text runs

A run is a stretch of one line of text with marks, attributes and perhaps a link. Runs of white
space take on the marks of their neighbours, and adjacent runs that look alike become one.
-/

namespace SceneCompiler

/-! ### Marks -/

/-- How a run is marked. -/
structure TextMarks where
  bold : Bool := false
  italic : Bool := false
  underline : Bool := false
  strike : Bool := false
  code : Bool := false
  link : Bool := false
deriving DecidableEq, Repr

namespace TextMarks

def zipWith (f : Bool → Bool → Bool) (a b : TextMarks) : TextMarks where
  bold := f a.bold b.bold
  italic := f a.italic b.italic
  underline := f a.underline b.underline
  strike := f a.strike b.strike
  code := f a.code b.code
  link := f a.link b.link

def shared (a b : TextMarks) : TextMarks :=
  zipWith and a b

def union (a b : TextMarks) : TextMarks :=
  zipWith or a b

end TextMarks

/-! ### Runs -/

/-- A stretch of text. -/
structure TextRun where
  text : String
  marks : TextMarks := {}
  attributes : TextMap := ∅
  link : Option String := none
deriving DecidableEq

namespace TextRun

/-- The run has no character but white space, or none at all. -/
def isBlank (r : TextRun) : Bool :=
  r.text.toList.all isWhite

/-! ### White space between runs -/

/-- The marks that two neighbours share. A link is shared only if it is the same. -/
def sharedMarks (left right : TextRun) : TextMarks :=
  let shared := left.marks.shared right.marks
  { shared with link := shared.link && left.link == right.link }

/-- A blank run takes on the marks that its neighbours share, and their link if it has none. -/
def stick (left r right : TextRun) : TextRun :=
  if r.isBlank then
    let shared := sharedMarks left right
    { r with
      marks := r.marks.union shared
      link := if shared.link then r.link <|> left.link else r.link }
  else r

/-- Lets every run but the last take on the marks of its neighbours as they were. -/
def stickFrom (left : TextRun) : List TextRun → List TextRun
  | r :: right :: rest => stick left r right :: stickFrom r (right :: rest)
  | short => short

/-- Lets blank runs between two others take on the marks that both share. -/
def applySticky : List TextRun → List TextRun
  | [] => []
  | first :: rest => first :: stickFrom first rest

/-! ### Merging -/

/-- Two neighbours become one run: marks and link are the same, and so are the attributes unless one
of them is blank. -/
def mergeable (a b : TextRun) : Bool :=
  a.marks == b.marks && a.link == b.link && (a.attributes == b.attributes || a.isBlank || b.isBlank)

/-- One run for two. The attributes are those of the run that is not blank. -/
def join (a b : TextRun) : TextRun :=
  { a with
    text := a.text ++ b.text
    attributes := if a.isBlank && !b.isBlank then b.attributes else a.attributes }

def mergeOnto (last : TextRun) : List TextRun → List TextRun
  | [] => [last]
  | r :: rest => if mergeable last r then mergeOnto (join last r) rest else last :: mergeOnto r rest

def merge : List TextRun → List TextRun
  | [] => []
  | r :: rest => mergeOnto r rest

end TextRun

end SceneCompiler
