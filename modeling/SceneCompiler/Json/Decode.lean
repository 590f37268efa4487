import SceneCompiler.Json.Basic
/-!
# Typed reading of JSON values

Readers of the type `Json → Option α`, and records. A record is an object or an array of its fields
in their declared order. In an object unknown keys are ignored and a declared key may occur only
once; an array may end early where the remaining fields have defaults, and never goes on after the
last field.

A value whose kind is told by another part of its record is set aside until that part is known.
Names in such a value have a second spelling each.
-/

namespace SceneCompiler.Json

/-- When a value is read. -/
inductive Reading where
  /-- At once: its kind is known. -/
  | direct
  /-- After it was set aside until its kind was known. -/
  | deferred
deriving DecidableEq, Repr

/-! ### Plain values -/

def text? : Json → Option String
  | .str s => some s
  | _ => none

def flag? : Json → Option Bool
  | .bool b => some b
  | _ => none

/-- A whole number from zero to just below `limit`. -/
def countBelow? (limit : Nat) : Json → Option Nat
  | .int n => if 0 ≤ n ∧ n < limit then some n.toNat else none
  | _ => none

/-- A whole number of 64 bits. -/
def count? : Json → Option Nat :=
  countBelow? UInt64.size

/-- A number, in single precision. -/
def single? : Json → Option Float32
  | .int n => some (Exact.ofInt n).toSingle
  | .float x => some (narrow x)
  | _ => none

def nullable? {α : Type} (read : Json → Option α) : Json → Option (Option α)
  | .null => some none
  | j => (read j).map some

def listOf? {α : Type} (read : Json → Option α) : Json → Option (List α)
  | .arr items => items.mapM read
  | _ => none

/-- An object with values of one kind; of equal keys the last one counts. -/
def mapOf? {α : Type} (read : Json → Option α) : Json → Option (Std.ExtTreeMap String α)
  | .obj members => members.foldlM (fun m (k, j) => (read j).map fun v => m.insert k v) ∅
  | _ => none

def textMap? : Json → Option TextMap :=
  mapOf? text?

/-- One of several names, either as a text or as the only key of an object over null. In a deferred
value the key may also stand over an empty object. -/
def choice? {α : Type} (reading : Reading) (names : List (String × α)) : Json → Option α
  | .str s => names.lookup s
  | .obj [(s, .null)] => names.lookup s
  | .obj [(s, .obj [])] => if reading = .deferred then names.lookup s else none
  | _ => none

/-! ### Records -/

/-- What a value says about one declared field. -/
inductive Field where
  /-- The field has a value. -/
  | given (j : Json)
  /-- An object does not mention the field. -/
  | unmentioned
  /-- An array ends before the field. -/
  | cut

namespace Field

def required? {α : Type} (read : Json → Option α) : Field → Option α
  | .given j => read j
  | _ => none

/-- The field has a value of its own when it is not there. -/
def withDefault? {α : Type} (default : α) (read : Json → Option α) : Field → Option α
  | .given j => read j
  | _ => some default

/-- The field may be null or be left out. -/
def optional? {α : Type} (read : Json → Option α) : Field → Option (Option α) :=
  withDefault? none (nullable? read)

/-- The field may be null, and an object may leave it out. -/
def mentioned? {α : Type} (read : Json → Option α) : Field → Option (Option α)
  | .given j => nullable? read j
  | .unmentioned => some none
  | .cut => none

end Field

/-- The declared fields of an object; `none` if one of them is repeated. -/
def fieldsOfMembers? (names : List String) (members : List (String × Json)) :
    Option (List Field) :=
  names.mapM fun name =>
    match members.filter (·.1 = name) with
    | [] => some .unmentioned
    | [(_, j)] => some (.given j)
    | _ => none

/-- The declared fields of an array; `none` if it has more items. -/
def fieldsOfItems? (names : List String) (items : List Json) : Option (List Field) :=
  if names.length < items.length then none
  else some (items.map .given ++ List.replicate (names.length - items.length) .cut)

def fields? (names : List String) : Json → Option (List Field)
  | .obj members => fieldsOfMembers? names members
  | .arr items => fieldsOfItems? names items
  | _ => none

/-- One of several tags: a text, or in a deferred value its place among them. -/
def tag? (reading : Reading) (tags : List String) : Json → Option String
  | .str s => if tags.contains s then some s else none
  | .int n => if reading = .deferred ∧ 0 ≤ n then tags[n.toNat]? else none
  | _ => none

/-- A tagged record: an object with the tag under a key of its own, or an array that begins with the
tag. The result is the tag and the value without it. -/
def tagged? (reading : Reading) (key : String) (tags : List String) : Json → Option (String × Json)
  | .obj members =>
    match members.filter (·.1 = key) with
    | [(_, j)] => (tag? reading tags j).map (·, .obj (members.filter (·.1 ≠ key)))
    | _ => none
  | .arr (j :: items) => (tag? reading tags j).map (·, .arr items)
  | _ => none

end SceneCompiler.Json
