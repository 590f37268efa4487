import SceneCompiler.Json.Basic
import SceneCompiler.Json.Shape
import SceneCompiler.Number.Decimal
/-!
# Reading JSON text

`Json.read?` accepts exactly one value with white space around it. Arrays and objects nest at most
127 deep. A number without fraction and exponent that fits 64 bits is whole; any other number is
read in double precision (`Json.scaled?`), and is refused when it is too large for that.

`Json.readShape?` reads only the members that a record declares. The others are skipped: their
grammar is checked, but not how large their numbers are, whether their strings are proper Unicode
text, or how deep they nest.
-/

namespace SceneCompiler.Json

/-! ### Numbers -/

/-- The largest significand that is kept exactly. -/
def significandLimit : Nat :=
  UInt64.size - 1

/-- Appends digits to a significand while it stays within the limit; also the count of digits
taken. -/
def absorbDigits (significand : Nat) : List Char → Nat × Nat
  | [] => (significand, 0)
  | c :: rest =>
    let next := 10 * significand + digitValue c
    if next ≤ significandLimit then
      let (value, taken) := absorbDigits next rest
      (value, taken + 1)
    else (significand, 0)

/-- `significand · 10 ^ exponent` in double precision, by one multiplication or division with a
power of ten; exponents below -308 take steps of that size. `none` beyond the largest number. -/
def scaled? (significand : Nat) (exponent : Int) : Option Float :=
  go (exponent.natAbs / 308 + 1) (UInt64.ofNat significand).toFloat exponent
where
  /-- Scales `x`, in at most `steps` steps. -/
  go : Nat → Float → Int → Option Float
    | 0, x, _ => some x
    | steps + 1, x, exponent =>
      if 0 ≤ exponent then
        if exponent ≤ 308 then
          let y := x * Exact.toDouble ⟨false, Nat.pow 10 exponent.natAbs, 0⟩
          if y.isInf then none else some y
        else if x == 0 then some x
        else none
      else if -308 ≤ exponent then some (x / Exact.toDouble ⟨false, Nat.pow 10 exponent.natAbs, 0⟩)
      else if x == 0 then some x
      else go steps (x / Exact.toDouble ⟨false, Nat.pow 10 308, 0⟩) (exponent + 308)

/-- The number with the given sign, digits before and after the point, and exponent. -/
def decimal? (negative : Bool) (whole fraction : List Char) (exponent : Int) : Option Json :=
  let (significand, taken) := absorbDigits 0 whole
  let (significand, places) := absorbDigits significand fraction
  let scale : Int := (whole.length : Int) - taken - places + exponent
  let value :=
    if 0x80000000 ≤ exponent then if significand = 0 then some 0 else none
    else if exponent ≤ -0x80000000 then some 0
    else scaled? significand scale
  value.map fun x => .float (if negative then -x else x)

/-- The number written by whole digits alone. Zero with a sign is not whole. -/
def whole? (negative : Bool) (digits : List Char) : Option Json :=
  let n := digitsValue digits
  if negative then
    if 0 < n ∧ n ≤ 0x8000000000000000 then some (.int (-(n : Int))) else decimal? true digits [] 0
  else if n ≤ significandLimit then some (.int n)
  else decimal? false digits [] 0

/-- Reads the exponent after its mark: an optional sign and digits. -/
def readExponent? (s : List Char) : Option (Int × List Char) :=
  let (negative, s) := takeSign s
  let digits := s.takeWhile Char.isDigit
  if digits = [] then none
  else
    let n : Int := digitsValue digits
    some (if negative then -n else n, s.dropWhile Char.isDigit)

/-- A number as written. -/
structure Numeral where
  negative : Bool
  whole : List Char
  fraction : List Char
  exponent : Option Int

def readNumeral? (negative : Bool) (s : List Char) : Option (Numeral × List Char) := do
  let whole := s.takeWhile Char.isDigit
  let s := s.dropWhile Char.isDigit
  if whole = [] ∨ (whole.head? = some '0' ∧ 1 < whole.length) then none
  let (fraction, s) ← match s with
    | '.' :: r =>
      let fraction := r.takeWhile Char.isDigit
      if fraction = [] then none else some (fraction, r.dropWhile Char.isDigit)
    | r => some ([], r)
  let (exponent, s) ← match s with
    | 'e' :: r => (readExponent? r).map fun (e, r) => (some e, r)
    | 'E' :: r => (readExponent? r).map fun (e, r) => (some e, r)
    | r => some (none, r)
  return ({ negative, whole, fraction, exponent }, s)

def Numeral.value? (n : Numeral) : Option Json :=
  if n.fraction = [] ∧ n.exponent = none then whole? n.negative n.whole
  else decimal? n.negative n.whole n.fraction (n.exponent.getD 0)

/-! ### Strings -/

def hexValue? (c : Char) : Option Nat :=
  if c.isDigit then some (c.toNat - 48)
  else if 'a' ≤ c ∧ c ≤ 'f' then some (c.toNat - 87)
  else if 'A' ≤ c ∧ c ≤ 'F' then some (c.toNat - 55)
  else none

def readHex4? : List Char → Option (Nat × List Char)
  | a :: b :: c :: d :: rest => do
    return (((← hexValue? a) * 16 + (← hexValue? b)) * 256 +
      ((← hexValue? c) * 16 + (← hexValue? d)), rest)
  | _ => none

/-- Reads the number after `\u`, and the second half of a surrogate pair where one has to
follow. -/
def readUnicode? (s : List Char) : Option (Char × List Char) := do
  let (high, s) ← readHex4? s
  if 0xD800 ≤ high ∧ high < 0xDC00 then
    match s with
    | '\\' :: 'u' :: r =>
      let (low, r) ← readHex4? r
      if 0xDC00 ≤ low ∧ low < 0xE000 then
        return (Char.ofNat (0x10000 + (high - 0xD800) * 0x400 + (low - 0xDC00)), r)
      else none
    | _ => none
  else if 0xDC00 ≤ high ∧ high < 0xE000 then none
  else return (Char.ofNat high, s)

/-- The character that a letter after a backslash stands for. -/
def escaped? : Char → Option Char
  | '"' => some '"'
  | '\\' => some '\\'
  | '/' => some '/'
  | 'b' => some '\x08'
  | 'f' => some '\x0c'
  | 'n' => some '\n'
  | 'r' => some '\r'
  | 't' => some '\t'
  | _ => none

/-- Reads a string after its opening quote; `done` has the characters before, the last one first.
`fuel` bounds the count of characters. -/
def readChars? : Nat → List Char → List Char → Option (String × List Char)
  | 0, _, _ => none
  | _, _, [] => none
  | fuel + 1, done, c :: s =>
    if c = '"' then some (String.ofList done.reverse, s)
    else if c = '\\' then
      match s with
      | 'u' :: r => do
        let (d, r) ← readUnicode? r
        readChars? fuel (d :: done) r
      | e :: r => do
        readChars? fuel ((← escaped? e) :: done) r
      | [] => none
    else if c.toNat < 0x20 then none
    else readChars? fuel (c :: done) s

/-- Skips a string after its opening quote. `fuel` bounds the count of characters. -/
def skipChars? : Nat → List Char → Option (List Char)
  | 0, _ => none
  | _, [] => none
  | fuel + 1, c :: s =>
    if c = '"' then some s
    else if c = '\\' then
      match s with
      | 'u' :: r => (readHex4? r).bind fun (_, r) => skipChars? fuel r
      | e :: r => (escaped? e).bind fun _ => skipChars? fuel r
      | [] => none
    else if c.toNat < 0x20 then none
    else skipChars? fuel s

/-! ### What is read -/

namespace Shape

def readNumber? (shape : Shape) (negative : Bool) (s : List Char) : Option (Json × List Char) := do
  let (n, s) ← readNumeral? negative s
  if shape.isSkipped then return (.null, s) else return (← n.value?, s)

/-- Reads a string after its opening quote. `fuel` bounds the count of characters. -/
def readString? (shape : Shape) (fuel : Nat) (s : List Char) : Option (String × List Char) :=
  if shape.isSkipped then (skipChars? fuel s).map ("", ·) else readChars? fuel [] s

end Shape

/-! ### Values -/

/-- White space between the tokens of JSON. -/
def isSpace (c : Char) : Bool :=
  c == ' ' || c == '\n' || c == '\t' || c == '\r'

def skipSpace (s : List Char) : List Char :=
  s.dropWhile isSpace

mutual

/-- Reads what a shape tells of one value. `fuel` bounds the count of steps, `depth` the nesting
still allowed. -/
def readValue? (fuel depth : Nat) (shape : Shape) (s : List Char) : Option (Json × List Char) :=
  match fuel with
  | 0 => none
  | fuel + 1 =>
    match skipSpace s with
    | 'n' :: 'u' :: 'l' :: 'l' :: r => some (.null, r)
    | 't' :: 'r' :: 'u' :: 'e' :: r => some (.bool true, r)
    | 'f' :: 'a' :: 'l' :: 's' :: 'e' :: r => some (.bool false, r)
    | '"' :: r => (shape.readString? fuel r).map fun (t, r) => (.str t, r)
    | '-' :: r => shape.readNumber? true r
    | '[' :: r =>
      match shape.inside? depth with
      | none => none
      | some depth =>
        match skipSpace r with
        | ']' :: r => some (.arr [], r)
        | r => (readItems? fuel depth shape 0 r).map fun (items, r) => (.arr items, r)
    | '\x7b' :: r =>
      match shape.inside? depth with
      | none => none
      | some depth =>
        match skipSpace r with
        | '\x7d' :: r => some (.obj [], r)
        | r => (readMembers? fuel depth shape r).map fun (members, r) => (.obj members, r)
    | r => shape.readNumber? false r

/-- Reads the items of an array from a place on, up to its closing bracket. -/
def readItems? (fuel depth : Nat) (shape : Shape) (place : Nat) (s : List Char) :
    Option (List Json × List Char) :=
  match fuel with
  | 0 => none
  | fuel + 1 =>
    match readValue? fuel depth (shape.item place) s with
    | none => none
    | some (j, s) =>
      match skipSpace s with
      | ']' :: r => some ([j], r)
      | ',' :: r =>
        (readItems? fuel depth shape (place + 1) r).map fun (items, r) => (j :: items, r)
      | _ => none

/-- Reads the members of an object up to its closing brace, and leaves out those that are skipped.
-/
def readMembers? (fuel depth : Nat) (shape : Shape) (s : List Char) :
    Option (List (String × Json) × List Char) :=
  match fuel with
  | 0 => none
  | fuel + 1 =>
    match skipSpace s with
    | '"' :: r =>
      match shape.readString? fuel r with
      | none => none
      | some (key, r) =>
        match skipSpace r with
        | ':' :: r =>
          match readValue? fuel depth (shape.member key) r with
          | none => none
          | some (j, r) =>
            let kept := if (shape.member key).isSkipped then [] else [(key, j)]
            match skipSpace r with
            | '\x7d' :: r => some (kept, r)
            | ',' :: r =>
              (readMembers? fuel depth (shape.after key) r).map fun (members, r) =>
                (kept ++ members, r)
            | _ => none
        | _ => none
    | _ => none

end

/-- How deep arrays and objects may nest. -/
def nestingLimit : Nat := 127

/-- Reads what a shape tells of a text that holds one value and nothing else. -/
def readShape? (shape : Shape) (text : String) : Option Json :=
  let s := text.toList
  match readValue? (2 * s.length + 1) nestingLimit shape s with
  | some (j, rest) => if skipSpace rest = [] then some j else none
  | none => none

/-- Reads a text that holds one value and nothing else. -/
def read? (text : String) : Option Json :=
  readShape? .whole text

end SceneCompiler.Json
