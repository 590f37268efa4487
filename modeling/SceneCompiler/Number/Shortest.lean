import SceneCompiler.Number.Decimal
/-!
# Shortest decimals

The decimal with the fewest digits that still reads back as a given double-precision number: the
numbers that round to it fill an interval, and decimal grids are tried from coarse to fine until one
has a point in it.
-/

namespace SceneCompiler.Shortest

/-- A quotient of natural numbers. -/
structure Quotient where
  num : Nat
  den : Nat

def Quotient.scale (v : Quotient) (power : Int) : Quotient :=
  if power < 0 then ⟨v.num, v.den * Nat.pow 10 power.natAbs⟩
  else ⟨v.num * Nat.pow 10 power.natAbs, v.den⟩

/-- The count of digits before the point of a positive quotient: below one it is zero or less, by
the zeros after the point. -/
def magnitude (v : Quotient) : Int :=
  if v.den ≤ v.num then (decimalDigits (v.num / v.den)).length
  else 1 - (((List.range 400).find? fun k => v.den ≤ v.num * Nat.pow 10 k).getD 400 : Nat)

/-- The numbers that round to a mantissa with an exponent, as quotients: the lower end, the middle,
and the upper end. Below a power of two the gap is half as wide, except at the smallest exponent. -/
def interval (x : Exact) : Quotient × Quotient × Quotient :=
  let scaled (m : Nat) : Quotient :=
    let q : Exact := ⟨false, m, x.exponent - 2⟩
    ⟨q.quotient.1, q.quotient.2⟩
  let narrow := x.mantissa = 0x10000000000000 ∧ x.exponent ≠ -1074
  let low := if narrow then 4 * x.mantissa - 1 else 4 * x.mantissa - 2
  (scaled low, scaled (4 * x.mantissa), scaled (4 * x.mantissa + 2))

/-- A point of the grid lies in the interval; the ends count for an even mantissa. -/
def within (x : Exact) (power : Int) (point : Nat) : Bool :=
  let (low, _, high) := interval x
  let low := low.scale (-power)
  let high := high.scale (-power)
  if x.mantissa % 2 = 0 then low.num ≤ point * low.den && point * high.den ≤ high.num
  else low.num < point * low.den && point * high.den < high.num

/-- The point of the grid of a power of ten that is nearest to the value among those in the
interval. -/
def onGrid? (x : Exact) (power : Int) : Option Nat :=
  let v := (interval x).2.1.scale (-power)
  let below := v.num / v.den
  let nearest := roundHalfEven v.num v.den
  if within x power nearest then some nearest
  else if within x power below then some below
  else if within x power (below + 1) then some (below + 1)
  else none

/-- Digits and power of ten of the shortest decimal. -/
def decimal (x : Exact) : List Char × Int :=
  let top := magnitude (interval x).2.1
  let found := (List.range 17).findSome? fun (n : Nat) =>
    (onGrid? x (top - n - 1)).map fun point => (point, top - n - 1)
  let (point, power) := found.getD (0, 0)
  let digits := decimalDigits point
  let kept := dropTrailing '0' digits
  (kept, power + ((digits.length - kept.length : Nat) : Int))

def exponentText (n : Int) : List Char :=
  (if n < 0 then '-' else '+') :: decimalDigits n.natAbs

/-- The text of a finite number: positional from five zeros after the point up to sixteen digits
before it, with an exponent else. Whole numbers have a zero after the point. -/
def text (x : Exact) : List Char :=
  let sign := if x.negative then ['-'] else []
  if x.mantissa = 0 then sign ++ "0.0".toList
  else
    let (digits, power) := decimal x
    let top : Int := digits.length + power
    sign ++
      if 0 ≤ power ∧ top ≤ 16 then digits ++ List.replicate power.natAbs '0' ++ ".0".toList
      else if 0 < top ∧ top ≤ 16 then
        digits.take top.natAbs ++ '.' :: digits.drop top.natAbs
      else if -5 < top ∧ top ≤ 0 then "0.".toList ++ List.replicate top.natAbs '0' ++ digits
      else
        digits.take 1 ++ (if digits.length = 1 then [] else '.' :: digits.drop 1) ++
          'e' :: exponentText (top - 1)

end SceneCompiler.Shortest
