import SceneCompiler.Number.Decimal
/-!
# Punycode

Labels of domain names with characters beyond ASCII are written in ASCII: the ASCII characters
first, then a dash, then the places and code points of the others as numbers with digits of varying
weight (RFC 3492).
-/

namespace SceneCompiler.Punycode

/-- The least weight boundary of a digit. -/
def boundary (position bias : Nat) : Nat :=
  if position ≤ bias then 1 else if bias + 26 ≤ position then 26 else position - bias

/-- Halves a delta until it is small; also the bias that this makes up for. `fuel` bounds the
steps. -/
def reduceDelta : Nat → Nat → Nat × Nat
  | 0, delta => (delta, 0)
  | fuel + 1, delta =>
    if delta ≤ 455 then (delta, 0)
    else
      let (small, bias) := reduceDelta fuel (delta / 35)
      (small, bias + 36)

/-- The bias after a number, given the count of characters so far. -/
def adapt (delta count : Nat) (first : Bool) : Nat :=
  let delta := if first then delta / 700 else delta / 2
  let (small, bias) := reduceDelta 64 (delta + delta / count)
  bias + 36 * small / (small + 38)

def digit (n : Nat) : Char :=
  if n < 26 then Char.ofNat (97 + n) else Char.ofNat (22 + n)

def digitOf? (c : Char) : Option Nat :=
  if c.isLower then some (c.toNat - 97)
  else if c.isUpper then some (c.toNat - 65)
  else if c.isDigit then some (c.toNat - 22)
  else none

/-! ### Writing -/

/-- The digits of a number from a position on; `fuel` bounds their count. -/
def writeNumber (bias : Nat) : Nat → Nat → Nat → List Char
  | 0, _, _ => []
  | fuel + 1, position, n =>
    let t := boundary position bias
    if n < t then [digit n]
    else
      digit (t + (n - t) % (36 - t)) ::
        writeNumber bias fuel (position + 36) ((n - t) / (36 - t))

/-- The state between two numbers. -/
structure State where
  delta : Nat
  bias : Nat
  handled : Nat

/-- Passes one character while the code point `n` is written. -/
def passChar (basic n : Nat) (s : State × List Char) (c : Char) : State × List Char :=
  if c.toNat < n then ({ s.1 with delta := s.1.delta + 1 }, s.2)
  else if c.toNat = n then
    ({ delta := 0
       bias := adapt s.1.delta (s.1.handled + 1) (s.1.handled = basic)
       handled := s.1.handled + 1 },
      s.2 ++ writeNumber s.1.bias 64 36 s.1.delta)
  else s

/-- Writes code points in increasing order, starting after the code point before `n`. -/
def writeFrom (label : List Char) (basic : Nat) : List Nat → Nat → State → List Char
  | [], _, _ => []
  | m :: later, n, s =>
    let s := { s with delta := s.delta + (m - n) * (s.handled + 1) }
    let (s, digits) := label.foldl (passChar basic m) (s, [])
    digits ++ writeFrom label basic later (m + 1) { s with delta := s.delta + 1 }

/-- The numbers in increasing order, each once. -/
def insertOnce (n : Nat) : List Nat → List Nat
  | [] => [n]
  | m :: rest =>
    if n < m then n :: m :: rest else if n = m then m :: rest else m :: insertOnce n rest

def encode (label : List Char) : List Char :=
  let plain := label.filter (·.toNat < 0x80)
  let others := ((label.filter (0x80 ≤ ·.toNat)).map Char.toNat).foldr insertOnce []
  plain ++ (if plain.isEmpty then [] else ['-']) ++
    writeFrom label plain.length others 0x80 ⟨0, 72, plain.length⟩

/-! ### Reading -/

/-- Reads a number from a position on, adding to `sum` with the given weight. -/
def readNumber? (bias : Nat) : Nat → Nat → Nat → List Char → Option (Nat × List Char)
  | _, _, _, [] => none
  | position, weight, sum, c :: s => do
    let d ← digitOf? c
    let sum := sum + d * weight
    if UInt32.size ≤ sum then none
    let t := boundary position bias
    if d < t then return (sum, s)
    else readNumber? bias (position + 36) (weight * (36 - t)) sum s

/-- Reads the characters beyond ASCII into a label; `fuel` bounds their count. -/
def readFrom? : Nat → Nat → Nat → Nat → List Char → List Char → Option (List Char)
  | 0, _, _, _, label, s => if s.isEmpty then some label else none
  | fuel + 1, n, i, bias, label, s =>
    if s.isEmpty then some label
    else do
      let (next, rest) ← readNumber? bias 36 1 i s
      let count := label.length + 1
      let n := n + next / count
      let place := next % count
      if h : n.isValidChar then
        readFrom? fuel n (place + 1) (adapt (next - i) count (i = 0))
          (label.take place ++ Char.ofNatAux n h :: label.drop place) rest
      else none

/-- The label of an ASCII form. The last dash ends the ASCII characters of the label, so it does not
stand at the start. -/
def decode? (s : List Char) : Option (List Char) :=
  let back := s.reverse
  let tail := (back.takeWhile (· ≠ '-')).reverse
  let plain := ((back.dropWhile (· ≠ '-')).drop 1).reverse
  if s.length = tail.length + 1 then none else readFrom? s.length 0x80 0 72 plain tail

end SceneCompiler.Punycode
