import SceneCompiler.Link.Address
import SceneCompiler.Link.Composition
import SceneCompiler.Link.Direction
import SceneCompiler.Link.FoldTable
import SceneCompiler.Link.Joining
import SceneCompiler.Link.Punycode
import SceneCompiler.Link.RefusedTable
/-!
# Names of hosts

Names are compared without regard to case or to the way their letters are put together, and sent in
ASCII, label by label. A label that comes in ASCII already has to say what it would be sent as.
-/

namespace SceneCompiler.Link

/-! ### Folding -/

/-- Characters that names may not contain in any form. -/
def isRefused (c : Char) : Bool :=
  inRanges
    (if c.toNat < 0x1000 then refusedLow else if c.toNat < 0x10000 then refusedMiddle
      else refusedHigh)
    c.toNat

/-- What a character becomes by moving with its run. -/
def movedChar? (c : Char) : Option Char :=
  foldRuns.findSome? fun (first, last, step, shift) =>
    if first ≤ c.toNat && c.toNat ≤ last && (c.toNat - first) % step = 0 then
      some (Char.ofNat (c.toNat + shift).toNat)
    else none

/-- What a character becomes if the table spells it out. -/
def spelledChar? (c : Char) : Option (List Char) :=
  let table :=
    if c.toNat < 0x3400 then foldTextsLow else if c.toNat < 0xFB00 then foldTextsMiddle
    else if c.toNat < 0x10000 then foldTextsHigh else foldTextsBeyond
  table.findSome? fun (first, texts) =>
    if first ≤ c.toNat then (splitAtChar ' ' texts.toList)[c.toNat - first]? else none

/-- What a character of a name becomes; `none` if names may not contain it. -/
def foldChar? (c : Char) : Option (List Char) :=
  if c.toNat < 0x80 then some [c.toLower]
  else if inRanges ignoredRanges c.toNat then some []
  else if isRefused c then none
  else ((movedChar? c).map ([·]) <|> spelledChar? c).getD [c]

/-- What a text becomes when all its characters are folded, and its letters have taken in their
marks. -/
def foldText? (s : List Char) : Option (List Char) :=
  (s.mapM foldChar?).map fun texts => compose texts.flatten

/-! ### Labels -/

/-- ASCII characters that names may not contain. -/
def isForbidden (c : Char) : Bool :=
  c ≤ ' ' || "%#/:<>?@[\\]^|\x7f".toList.contains c

def isAscii (s : List Char) : Bool :=
  s.all (·.toNat < 0x80)

/-- The largest count of characters in a label with characters beyond ASCII. -/
def labelLimit : Nat := 1000

/-- Whether a folded label can be part of a name: it does not begin with a mark, its joiners fit,
and it is not too long to be written in ASCII. -/
def isLabel (label : List Char) : Bool :=
  !label.head?.any isMark && joinersFit [] label && (isAscii label || label.length ≤ labelLimit)

/-- The largest count of characters that are read as one label. -/
def encodedLimit : Nat := 2000

/-- The label that a folded label stands for, which is another one if it comes in ASCII. -/
def readLabel? (label : List Char) : Option (List Char) :=
  match stripStart? "xn--".toList label with
  | some encoded => do
    if !isAscii encoded || encodedLimit < encoded.length then none
    let written ← Punycode.decode? encoded
    if isAscii written || foldText? written != some written || !isLabel written then none
    return written
  | none => if isAscii label || isLabel label then some label else none

def labelText (label : List Char) : List Char :=
  if isAscii label then label else "xn--".toList ++ Punycode.encode label

/-- How a name is sent; `none` if no host has such a name. -/
def nameText? (name : List Char) : Option (List Char) := do
  let labels := splitAtChar '.' (← foldText? name)
  let meant ← labels.mapM readLabel?
  if meant.any (·.any turnsDirection) && !meant.all keepsTogether then none
  let text := List.intercalate ['.'] (labels.map labelText)
  if text.isEmpty || text.any isForbidden then none
  return text

end SceneCompiler.Link
