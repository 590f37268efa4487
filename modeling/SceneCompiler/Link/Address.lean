import SceneCompiler.Json.Reader
/-!
# Numeric addresses

Hosts of links that are no names: addresses of 32 bits, whose parts may be decimal, octal or
hexadecimal and whose last part fills the rest, and addresses of 128 bits in eight pieces, a run of
zeros among them left out.
-/

namespace SceneCompiler.Link

/-- The pieces of a text between copies of a character. -/
def splitAtChar (c : Char) : List Char → List (List Char)
  | [] => [[]]
  | d :: s =>
    if d = c then [] :: splitAtChar c s
    else
      match splitAtChar c s with
      | piece :: rest => (d :: piece) :: rest
      | [] => [[d]]

/-! ### 32 bits -/

/-- The number with some digits to a base, if all of them are digits. -/
def digitsTo? (base : Nat) (digits : List Char) : Option Nat :=
  digits.foldlM (fun n c => (Json.hexValue? c).bind fun d =>
    if d < base then some (base * n + d) else none) 0

/-- The number of a part of an address. The start `0x` makes it hexadecimal, and `0` octal. -/
def partValue? : List Char → Option Nat
  | [] => none
  | '0' :: 'x' :: digits => digitsTo? 16 digits
  | '0' :: 'X' :: digits => digitsTo? 16 digits
  | '0' :: c :: digits => digitsTo? 8 (c :: digits)
  | digits => digitsTo? 10 digits

/-- The parts of a host between points, less an empty one at the end. -/
def hostParts (host : List Char) : List (List Char) :=
  let parts := splitAtChar '.' host
  if parts.getLast? = some [] then parts.dropLast else parts

/-- The last part of a host is a number, so the host is an address or nothing. -/
def endsInNumber (host : List Char) : Bool :=
  match (hostParts host).getLast? with
  | none => false
  | some part => (!part.isEmpty && part.all Char.isDigit) || (partValue? part).isSome

/-- An address of 32 bits from the values of its parts: each part but the last is a byte. -/
def joinParts? : Nat → List Nat → Option Nat
  | _, [] => none
  | room, [last] => if last < Nat.pow 256 room then some last else none
  | 0, _ => none
  | room + 1, n :: rest =>
    if n < 256 then (joinParts? room rest).map (n * Nat.pow 256 room + ·) else none

def readAddress32? (host : List Char) : Option Nat := do
  let parts := hostParts host
  if 4 < parts.length then none
  joinParts? 4 (← parts.mapM partValue?)

/-- The text of an address of 32 bits: its bytes in decimal. -/
def writeAddress32 (n : Nat) : List Char :=
  List.intercalate ['.']
    ([n / 0x1000000, n / 0x10000 % 256, n / 0x100 % 256, n % 256].map decimalDigits)

/-! ### 128 bits -/

/-- The pieces read so far, and how many of them come before the zeros that were left out. -/
structure Pieces where
  read : List Nat := []
  gap : Option Nat := none

/-- All eight pieces, with zeros in the gap. -/
def Pieces.fill? (p : Pieces) : Option (List Nat) :=
  match p.gap with
  | none => if p.read.length = 8 then some p.read else none
  | some before =>
    if 8 < p.read.length then none
    else some (p.read.take before ++ List.replicate (8 - p.read.length) 0 ++ p.read.drop before)

/-- A decimal byte without leading zeros. -/
def byteValue? (digits : List Char) : Option Nat :=
  if digits.isEmpty || !digits.all Char.isDigit ||
      (1 < digits.length && digits.head? = some '0') then
    none
  else
    let n := digitsValue digits
    if n < 256 then some n else none

/-- Four decimal bytes at the end of an address, as two pieces. -/
def bytePieces? (s : List Char) : Option (List Nat) := do
  let [a, b, c, d] ← (splitAtChar '.' s).mapM byteValue? | none
  return [256 * a + b, 256 * c + d]

/-- Reads the pieces after the first two colons, if those are at the start; `fuel` bounds their
count. -/
def readPieces? : Nat → Pieces → List Char → Option Pieces
  | _, p, [] => some p
  | 0, _, _ => none
  | fuel + 1, p, c :: s =>
    if 8 ≤ p.read.length then none
    else if c = ':' then
      if p.gap.isSome then none
      else readPieces? fuel { read := p.read ++ [0], gap := some (p.read.length + 1) } s
    else
      let digits := ((c :: s).take 4).takeWhile fun d => (Json.hexValue? d).isSome
      let rest := (c :: s).drop digits.length
      let next := { p with read := p.read ++ [(digitsTo? 16 digits).getD 0] }
      match rest with
      | [] => some next
      | ':' :: [] => none
      | ':' :: rest => readPieces? fuel next rest
      | '.' :: _ =>
        if digits.isEmpty || 6 < p.read.length then none
        else (bytePieces? (c :: s)).map fun pieces => { p with read := p.read ++ pieces }
      | _ => none

def readAddress128? (s : List Char) : Option (List Nat) :=
  match s with
  | [] => none
  | [_] => none
  | ':' :: ':' :: rest => (readPieces? 9 { read := [0], gap := some 1 } rest).bind Pieces.fill?
  | ':' :: _ => none
  | _ => (readPieces? 9 {} s).bind Pieces.fill?

/-- The place and length of the longest run of zeros, the first of equal ones. -/
def longestGap (pieces : List Nat) : Nat × Nat :=
  (List.range pieces.length).foldl (fun best start =>
    let length := ((pieces.drop start).takeWhile (· = 0)).length
    if best.2 < length then (start, length) else best) (0, 0)

/-- Pieces in hexadecimal with colons between them. -/
def pieceText (pieces : List Nat) : List Char :=
  List.intercalate [':'] (pieces.map (Nat.toDigits 16))

/-- The text of an address of 128 bits between brackets, without its longest run of two zeros or
more. -/
def writeAddress128 (pieces : List Nat) : List Char :=
  let (start, length) := longestGap pieces
  '[' :: ((if length < 2 then pieceText pieces
    else
      pieceText (pieces.take start) ++ "::".toList ++ pieceText (pieces.drop (start + length))) ++
        [']'])

end SceneCompiler.Link
