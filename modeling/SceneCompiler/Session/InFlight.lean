import Std.Data.ExtTreeMap
/-!
# Shared computations

Callers that ask for the same key share one computation. Each key has a current cell; a call joins
the cell of its key, or opens a new one, and the first to find the cell empty fills it. A filled
cell keeps its value, also one that says that there is nothing, until its key is evicted. Callers
that joined a cell still get its value after that.
-/

namespace SceneCompiler

/-- Cells by key, and their values. -/
structure InFlight (α β : Type) [Ord α] where
  /-- The cell of each key. -/
  current : Std.ExtTreeMap α Nat := ∅
  /-- The values of the filled cells. -/
  values : Std.ExtTreeMap Nat β := ∅
  /-- The number of the next cell. -/
  next : Nat := 0

namespace InFlight

variable {α β : Type} [Ord α] [Std.TransOrd α]

instance : Inhabited (InFlight α β) := ⟨{}⟩

/-! ### Steps -/

/-- Joins the cell of a key, opening one if there is none. -/
def join (x : InFlight α β) (key : α) : Nat × InFlight α β :=
  match x.current[key]? with
  | some cell => (cell, x)
  | none => (x.next, { x with current := x.current.insert key x.next, next := x.next + 1 })

/-- The value of a cell, once it is filled. -/
def value? (x : InFlight α β) (cell : Nat) : Option β :=
  x.values[cell]?

def fill (x : InFlight α β) (cell : Nat) (value : β) : InFlight α β :=
  { x with values := x.values.insert cell value }

/-- Drops the cell of a key; also whether there was one. -/
def evict (x : InFlight α β) (key : α) : Bool × InFlight α β :=
  (x.current.contains key, { x with current := x.current.erase key })

/-- Drops the cells of all keys. -/
def clear (x : InFlight α β) : InFlight α β :=
  { x with current := ∅ }

/-! ### Looking -/

def cached? (x : InFlight α β) (key : α) : Option β :=
  x.current[key]?.bind x.value?

def size (x : InFlight α β) : Nat :=
  (x.current.toList.filter fun (_, cell) => (x.value? cell).isSome).length

def isEmpty (x : InFlight α β) : Bool :=
  x.size == 0

/-! ### Calls one after the other -/

/-- The value of a key, computed if its cell is not filled. -/
def getOrRun {m : Type → Type} [Monad m] (x : InFlight α β) (key : α) (compute : m β) :
    m (β × InFlight α β) :=
  let (cell, x) := x.join key
  match x.value? cell with
  | some value => return (value, x)
  | none => do
    let value ← compute
    return (value, x.fill cell value)

end InFlight

end SceneCompiler
