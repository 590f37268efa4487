import Std.Data.ExtTreeMap
import SceneCompiler.Number.Exact
import SceneCompiler.Text.Class
/-!
# JSON values

A value keeps apart whole numbers and numbers written with a fraction or an exponent, and keeps
the members of an object as written, repetitions included. `Json.canonical` brings a value into the
form in which the last of several equal keys counts and keys are in order.
-/

namespace SceneCompiler

/-- A JSON value as written. -/
inductive Json where
  | null
  | bool (b : Bool)
  | int (n : Int)
  | float (x : Float)
  | str (s : String)
  | arr (items : List Json)
  | obj (members : List (String × Json))
deriving Inhabited

/-- Texts by name, in the order of their names. -/
abbrev TextMap := Std.ExtTreeMap String String

namespace Json

/-- The member of an object with a given key: the last one, if the key is repeated. -/
def member? (key : String) : Json → Option Json
  | .obj members => (members.reverse.find? (·.1 = key)).map (·.2)
  | _ => none

/-- A number in single precision; infinities and NaN have no form and become null. -/
def ofSingle (x : Float32) : Json :=
  match Exact.ofSingle? x with
  | some e => .float e.toDouble
  | none => .null

def ofNat (n : Nat) : Json := .int n

def ofOption {α : Type} (write : α → Json) : Option α → Json
  | some x => write x
  | none => .null

def ofList {α : Type} (write : α → Json) (items : List α) : Json :=
  .arr (items.map write)

/-- An object some of whose members may be left out. -/
def ofMembers (members : List (String × Option Json)) : Json :=
  .obj (members.filterMap fun (key, j) => j.map (key, ·))

def ofTextMap (m : TextMap) : Json :=
  .obj (m.toList.map fun (k, v) => (k, .str v))

mutual

/-- Sorts the keys of every object; of members with equal keys only the last one stays. -/
def canonical : Json → Json
  | .arr items => .arr (canonicalItems items)
  | .obj members => .obj (canonicalMembers members).toList
  | j => j

/-- The canonical forms of the items of an array. -/
def canonicalItems : List Json → List Json
  | [] => []
  | j :: rest => canonical j :: canonicalItems rest

/-- The canonical forms of the members of an object, by key. -/
def canonicalMembers : List (String × Json) → Std.ExtTreeMap String Json
  | [] => ∅
  | (k, j) :: rest =>
    let later := canonicalMembers rest
    if k ∈ later then later else later.insert k (canonical j)

end

end Json

end SceneCompiler
