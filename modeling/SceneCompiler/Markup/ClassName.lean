import SceneCompiler.Text.Hyphenate
import SceneCompiler.Number.Decimal
import SceneCompiler.Tree.Basic
import Std.Data.ExtTreeSet
/-!
# Class names

Every node of a tree gets a class of its own, made from its name. Names that are taken already get a
number.
-/

namespace SceneCompiler

/-- The class that a node would like: the words of its name, or its element if there are none. A
class does not start with a digit. -/
def baseClass (n : VisibleNode) : List Char :=
  let words := hyphenate Char.isAlphanum n.name.toList
  let base := if words.isEmpty then n.tag.name.toList else words
  if base.head?.any Char.isDigit then "n-".toList ++ base else base

/-- The class with a number behind it; the number one is not written. -/
def numberedClass (base : List Char) (number : Nat) : String :=
  String.ofList (if number = 1 then base else base ++ '-' :: decimalDigits number)

/-- The first class from a number on that is not taken. As many numbers are tried as there are taken
classes. -/
def freshClass (taken : Std.ExtTreeSet String) (base : List Char) : Nat → Nat → String
  | 0, number => numberedClass base number
  | tries + 1, number =>
    let candidate := numberedClass base number
    if candidate ∈ taken then freshClass taken base tries (number + 1) else candidate

/-- Classes by node, and all classes that are taken. -/
structure ClassTable where
  classes : Std.ExtTreeMap NodeId String := ∅
  taken : Std.ExtTreeSet String := ∅

def ClassTable.add (table : ClassTable) (n : VisibleNode) : ClassTable :=
  let chosen := freshClass table.taken (baseClass n) table.taken.size 1
  { classes := table.classes.insert n.id chosen, taken := table.taken.insert chosen }

/-- The classes of the nodes of a tree, given out in its order. -/
def VisibleTree.classNames (t : VisibleTree) : Std.ExtTreeMap NodeId String :=
  ((t.order.filterMap t.find?).foldl ClassTable.add {}).classes

end SceneCompiler
