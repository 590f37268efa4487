/-!
# Shapes of JSON texts

A record looks only at the members that it declares. Its shape tells which parts of a text are read
for it, and which are skipped.
-/

namespace SceneCompiler.Json

/-- What of a value is read. -/
inductive Shape where
  /-- Everything. -/
  | whole
  /-- Nothing. -/
  | skipped
  /-- The declared fields, in their order. -/
  | record (fields : List (String × Shape))
  /-- A tag and a content whose kind the tag tells. A content in front of its tag is set aside, and
  for that it is read whole. -/
  | tagged (tag content : String) (body : Shape)
  /-- The items of an array. -/
  | items (each : Shape)
  /-- The values of an object. -/
  | members (each : Shape)

namespace Shape

def isSkipped : Shape → Bool
  | skipped => true
  | _ => false

def member (key : String) : Shape → Shape
  | whole => whole
  | skipped => skipped
  | record fields => (fields.lookup key).getD skipped
  | tagged tag content _ => if key = tag ∨ key = content then whole else skipped
  | items _ => whole
  | members each => each

/-- What is read of the later members of an object after one with a key. -/
def after (key : String) : Shape → Shape
  | tagged tag content body =>
    if key = tag then record [(tag, whole), (content, body)] else tagged tag content body
  | shape => shape

def item (place : Nat) : Shape → Shape
  | skipped => skipped
  | record fields => ((fields[place]?).map (·.2)).getD whole
  | tagged _ _ body => if place = 1 then body else whole
  | items each => each
  | _ => whole

/-- How deep the parts of an array or object may nest; values that are skipped nest freely. -/
def inside? : Shape → Nat → Option Nat
  | skipped, depth => some depth
  | _, 0 => none
  | _, depth + 1 => some depth

end Shape

end SceneCompiler.Json
