import SceneCompiler.Number.Exact
/-!
# Decimal texts of numbers

Writing a number with a fixed count of decimal places, the short form used in style values
(`formatNumber`), and reading a decimal text as the nearest single-precision number.
-/

namespace SceneCompiler

/-! ### Digits -/

def digitValue (c : Char) : Nat :=
  c.toNat - '0'.toNat

/-- The natural number that a list of decimal digits denotes. -/
def digitsValue (digits : List Char) : Nat :=
  digits.foldl (fun n c => 10 * n + digitValue c) 0

def decimalDigits (n : Nat) : List Char :=
  Nat.toDigits 10 n

def integerText (n : Int) : String :=
  String.ofList ((if n < 0 then ['-'] else []) ++ decimalDigits n.natAbs)

/-! ### Fixed places -/

/-- The digits of `units / 10 ^ places` with a point before the last `places` digits. -/
def pointedDigits (places units : Nat) : List Char :=
  let fraction := decimalDigits (units % Nat.pow 10 places)
  decimalDigits (units / Nat.pow 10 places) ++
    (if places = 0 then []
     else '.' :: (List.replicate (places - fraction.length) '0' ++ fraction))

/-- The value with `places` decimal places, correctly rounded, ties to even. Negative values keep
their sign even when all digits are zero. -/
def Exact.fixed (places : Nat) (x : Exact) : List Char :=
  let (num, den) := x.quotient
  (if x.negative then ['-'] else []) ++
    pointedDigits places (roundHalfEven (num * Nat.pow 10 places) den)

/-- A single-precision number with a fixed count of places; infinities and NaN by name. -/
def fixedSingle (places : Nat) (x : Float32) : List Char :=
  match Exact.ofSingle? x with
  | some e => e.fixed places
  | none => if x.isNaN then "NaN".toList else if x < 0 then "-inf".toList else "inf".toList

/-- A double-precision number with a fixed count of places; infinities and NaN by name. -/
def fixedDouble (places : Nat) (x : Float) : List Char :=
  match Exact.ofDouble? x with
  | some e => e.fixed places
  | none => if x.isNaN then "NaN".toList else if x < 0 then "-inf".toList else "inf".toList

/-! ### The short form -/

def dropTrailing (c : Char) (s : List Char) : List Char :=
  (s.reverse.dropWhile (· = c)).reverse

/-- The short form of a number: whole numbers below a billion as integers, all else with at most
three decimal places and no trailing zeros. -/
def formatNumber (x : Float32) : String :=
  let written := String.ofList (dropTrailing '.' (dropTrailing '0' (fixedSingle 3 x)))
  match Exact.ofSingle? x with
  | some e =>
    if e.isWhole ∧ e.truncated.natAbs < 1000000000 then integerText e.truncated else written
  | none => written

/-! ### Reading -/

/-- The single-precision number nearest to `± digits · 10 ^ exponent`.

Values beyond `10 ^ 40` are infinite and values below `10 ^ -60` vanish, whatever their digits. -/
def nearestSingle (negative : Bool) (digits : Nat) (exponent : Int) : Float32 :=
  let magnitude : Int := (decimalDigits digits).length + exponent
  let pattern :=
    if digits = 0 ∨ magnitude < -60 then 0
    else if 40 < magnitude then Number.Format.single.infinity
    else if exponent < 0 then Number.Format.single.nearest digits (Nat.pow 10 exponent.natAbs)
    else Number.Format.single.nearest (digits * Nat.pow 10 exponent.natAbs) 1
  Float32.ofBits (UInt32.ofNat ((if negative then Number.Format.single.signBit else 0) + pattern))

def takeSign : List Char → Bool × List Char
  | '-' :: r => (true, r)
  | '+' :: r => (false, r)
  | r => (false, r)

/-- The exponent part of a decimal text, which has to use up the text. An absent part is zero. -/
def readExponent? : List Char → Option Int
  | [] => some 0
  | c :: r =>
    if c = 'e' ∨ c = 'E' then
      let (negative, digits) := takeSign r
      if digits ≠ [] ∧ digits.all Char.isDigit then
        let n : Int := digitsValue digits
        some (if negative then -n else n)
      else none
    else none

/-- The unsigned decimal `digits[.digits][e[sign]digits]` with at least one digit before the
exponent, as digits and power of ten. -/
def readDecimal? (s : List Char) : Option (Nat × Int) :=
  let whole := s.takeWhile Char.isDigit
  let rest := s.dropWhile Char.isDigit
  let (fraction, rest) :=
    match rest with
    | '.' :: r => (r.takeWhile Char.isDigit, r.dropWhile Char.isDigit)
    | r => ([], r)
  if whole = [] ∧ fraction = [] then none
  else (readExponent? rest).map fun e => (digitsValue (whole ++ fraction), e - fraction.length)

/-- Reads a number: an optional sign, then a decimal or, in any case, `inf`, `infinity` or
`nan`. -/
def readSingle? (s : List Char) : Option Float32 :=
  let (negative, body) := takeSign s
  let word := body.map Char.toLower
  if word = "inf".toList ∨ word = "infinity".toList then
    some (if negative then -1.0 / 0.0 else 1.0 / 0.0)
  else if word = "nan".toList then some (0.0 / 0.0)
  else (readDecimal? body).map fun (digits, exponent) => nearestSingle negative digits exponent

end SceneCompiler
