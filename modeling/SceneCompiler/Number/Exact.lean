/-!
# Exact values of binary floating-point numbers

A finite floating-point number is a signed mantissa times a power of two. This module reads that
value off the bits of a number, and goes back from a quotient of natural numbers to the nearest
number of a format (`Format.nearest`, ties to the even mantissa). Everything in between is
arithmetic on `Nat`.
-/

namespace SceneCompiler

/-! ### Rounding a quotient -/

/-- The integer nearest to `num / den`; a tie goes to the even neighbour. -/
def roundHalfEven (num den : Nat) : Nat :=
  let q := num / den
  let r := 2 * (num % den)
  if r < den then q
  else if den < r then q + 1
  else if q % 2 = 0 then q else q + 1

/-- The integer nearest to `num / den`; a tie goes up. -/
def roundHalfUp (num den : Nat) : Nat :=
  (2 * num + den) / (2 * den)

/-! ### Formats -/

namespace Number

/-- A binary format: bits of precision, exponent of the smallest positive number, width of the
exponent field. -/
structure Format where
  precision : Nat
  tiniest : Nat
  exponentBits : Nat
deriving DecidableEq

/-- Single precision: the smallest positive number is `2 ^ -149`. -/
def Format.single : Format := ⟨24, 149, 8⟩

/-- Double precision: the smallest positive number is `2 ^ -1074`. -/
def Format.double : Format := ⟨53, 1074, 11⟩

def Format.fractionBits (fmt : Format) : Nat :=
  fmt.precision - 1

/-- The bit pattern of positive infinity; larger patterns (below the sign) are not numbers. -/
def Format.infinity (fmt : Format) : Nat :=
  (Nat.pow 2 fmt.exponentBits - 1) * Nat.pow 2 fmt.fractionBits

def Format.signBit (fmt : Format) : Nat :=
  Nat.pow 2 (fmt.exponentBits + fmt.fractionBits)

/-- The least `e` with `num / den < 2 ^ e`, for a positive quotient. -/
def binaryExponent (num den : Nat) : Int :=
  let guess : Int := (num.log2 : Int) - (den.log2 : Int)
  let below : Bool :=
    if guess < 0 then num * Nat.pow 2 guess.natAbs < den
    else num < den * Nat.pow 2 guess.natAbs
  if below then guess else guess + 1

/-- The pattern (without sign) of the number nearest to `num / den`, ties to the even mantissa;
quotients beyond the largest number give infinity.

With the unit of the last place `2 ^ unit` the mantissa is at most `2 ^ precision`, and adding it
to the shifted exponent lets its top bit carry into the exponent field. -/
def Format.nearest (fmt : Format) (num den : Nat) : Nat :=
  if num = 0 then 0
  else
    let unit : Int := max (binaryExponent num den - fmt.precision) (-fmt.tiniest)
    let mantissa :=
      if unit < 0 then roundHalfEven (num * Nat.pow 2 unit.natAbs) den
      else roundHalfEven num (den * Nat.pow 2 unit.natAbs)
    let pattern := (unit + fmt.tiniest).toNat * Nat.pow 2 fmt.fractionBits + mantissa
    min pattern fmt.infinity

end Number

/-! ### Exact values -/

/-- The exact value `± mantissa · 2 ^ exponent` of a finite number. Zero keeps its sign. -/
structure Exact where
  negative : Bool
  mantissa : Nat
  exponent : Int
deriving DecidableEq

namespace Exact

open Number (Format)

/-- The value of a bit pattern; `none` for the infinities and for what is not a number. -/
def ofPattern? (fmt : Format) (bits : Nat) : Option Exact :=
  let magnitude := bits % fmt.signBit
  let negative := fmt.signBit ≤ bits
  if fmt.infinity ≤ magnitude then none
  else
    let field := magnitude / Nat.pow 2 fmt.fractionBits
    let fraction := magnitude % Nat.pow 2 fmt.fractionBits
    if field = 0 then some ⟨negative, fraction, -fmt.tiniest⟩
    else some ⟨negative, Nat.pow 2 fmt.fractionBits + fraction, (field : Int) - 1 - fmt.tiniest⟩

def ofSingle? (x : Float32) : Option Exact :=
  ofPattern? .single x.toBits.toNat

def ofDouble? (x : Float) : Option Exact :=
  ofPattern? .double x.toBits.toNat

/-- The magnitude as a quotient, the denominator being positive. -/
def quotient (x : Exact) : Nat × Nat :=
  if x.exponent < 0 then (x.mantissa, Nat.pow 2 x.exponent.natAbs)
  else (x.mantissa * Nat.pow 2 x.exponent.natAbs, 1)

/-- The pattern of the nearest number of a format, with the sign of `x`. -/
def toPattern (fmt : Format) (x : Exact) : Nat :=
  (if x.negative then fmt.signBit else 0) + fmt.nearest x.quotient.1 x.quotient.2

def toSingle (x : Exact) : Float32 :=
  Float32.ofBits (UInt32.ofNat (x.toPattern .single))

def toDouble (x : Exact) : Float :=
  Float.ofBits (UInt64.ofNat (x.toPattern .double))

def ofInt (n : Int) : Exact :=
  ⟨n < 0, n.natAbs, 0⟩

def isWhole (x : Exact) : Bool :=
  x.quotient.1 % x.quotient.2 = 0

/-- The nearest whole number, ties away from zero. The sign of zero is kept. -/
def rounded (x : Exact) : Exact :=
  ⟨x.negative, roundHalfUp x.quotient.1 x.quotient.2, 0⟩

/-- The integer part, toward zero. -/
def truncated (x : Exact) : Int :=
  let n : Nat := x.quotient.1 / x.quotient.2
  if x.negative then -(n : Int) else n

end Exact

/-! ### Conversions between the formats -/

/-- A single-precision number in double precision, which is exact. -/
def widen (x : Float32) : Float :=
  match Exact.ofSingle? x with
  | some e => e.toDouble
  | none =>
    if x.isNaN then 0.0 / 0.0 else if x < 0 then -1.0 / 0.0 else 1.0 / 0.0

/-- The single-precision number nearest to a double-precision one. -/
def narrow (x : Float) : Float32 :=
  match Exact.ofDouble? x with
  | some e => e.toSingle
  | none =>
    if x.isNaN then 0.0 / 0.0 else if x < 0 then -1.0 / 0.0 else 1.0 / 0.0

/-- Rounds to a whole number, ties away from zero; infinities and NaN stay. -/
def roundDouble (x : Float) : Float :=
  match Exact.ofDouble? x with
  | some e => e.rounded.toDouble
  | none => x

/-- Powers of ten by repeated squaring: `10 ^ n`, or its reciprocal for a negative exponent. -/
def powerOfTen (n : Int) : Float :=
  let p := squarings n.natAbs 10 1
  if n < 0 then 1 / p else p
where
  /-- Multiplies `acc` by `base ^ n`. -/
  squarings (n : Nat) (base acc : Float) : Float :=
    let acc := if n % 2 = 1 then acc * base else acc
    if _h : n / 2 = 0 then acc else squarings (n / 2) (base * base) acc
  termination_by n
  decreasing_by omega

/-- Rounds to `decimals` places, ties away from zero, computing in double precision. -/
def roundTo (x : Float32) (decimals : Int) : Float32 :=
  let factor := powerOfTen decimals
  narrow (roundDouble (widen x * factor) / factor)

end SceneCompiler
