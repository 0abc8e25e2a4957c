set_option autoImplicit false

/-!
# Binary floating point of 64 bits

A finite, non-negative number of the format is `mantissa * 2 ^ exponent`. Everything here is exact
arithmetic on natural numbers: rounding goes to the nearest representable number, a tie to the even
mantissa, and `shortest` finds the fewest decimal digits that still round to the same number.
-/

namespace Composer

/-- A finite, non-negative binary floating-point number. -/
structure Binary64 where
  /-- At most 53 bits. -/
  mantissa : Nat
  /-- The power of two of the mantissa's last bit. -/
  exponent : Int
  deriving DecidableEq, Repr

namespace Binary64

/-- The smallest exponent, shared by zero and the subnormal numbers. -/
def minExponent : Int := -1074

/-- The largest exponent. -/
def maxExponent : Int := 971

/-- The least mantissa of 53 bits. -/
def leastNormal : Nat := 1 <<< 52

/-- Zero. -/
def zero : Binary64 := { mantissa := 0, exponent := minExponent }

/-- The quotient of two natural numbers, rounded to the nearest one with ties to even. -/
def divNearest (num den : Nat) : Nat :=
  let q := num / den
  let r := num % den
  if 2 * r < den then q else if den < 2 * r then q + 1 else q + q % 2

/-- The number nearest to `num / den`, or nothing if that is beyond the largest finite number. -/
def ofRatio (num den : Nat) : Option Binary64 :=
  if num = 0 then some zero
  else
    let estimate : Int := (num.log2 : Int) - den.log2 - 52
    let small := num <<< (-estimate).toNat < (den <<< 52) <<< estimate.toNat
    let e := max (if small then estimate - 1 else estimate) minExponent
    let m := divNearest (num <<< (-e).toNat) (den <<< e.toNat)
    let x : Binary64 :=
      if m = 2 * leastNormal then { mantissa := leastNormal, exponent := e + 1 }
      else { mantissa := m, exponent := e }
    if maxExponent < x.exponent then none else some x

/-- The number above the fraction bar. -/
def num (x : Binary64) : Nat := x.mantissa <<< x.exponent.toNat

/-- The number below the fraction bar. -/
def den (x : Binary64) : Nat := 1 <<< (-x.exponent).toNat

/-- The rounded product. -/
def mul (x y : Binary64) : Option Binary64 := ofRatio (x.num * y.num) (x.den * y.den)

/-- The rounded quotient. -/
def div (x y : Binary64) : Option Binary64 := ofRatio (x.num * y.den) (x.den * y.num)

/-- The decimal number `digits * 10 ^ exponent`. -/
structure Shortest where
  digits : Nat
  exponent : Int
  deriving DecidableEq, Repr

/-- A grid point written without a trailing zero; only the carry from `9` to `10` leaves one. -/
def Shortest.ofGrid (digits : Nat) (exponent : Int) : Shortest :=
  if digits % 10 = 0 ∧ digits ≠ 0 then { digits := digits / 10, exponent := exponent + 1 }
  else { digits := digits, exponent := exponent }

/-- The fewest digits that round to `x`, and of these the nearest to `x`, a tie going to the even
digit; tried with `k`, `k + 1`, … digits, `n` times. All digits of `x` stand below `10 ^ point`.
-/
def shortestFrom (x : Binary64) (point : Int) : (n k : Nat) → Shortest
  | 0, _ => { digits := 0, exponent := point }
  | n + 1, k =>
    let grid := point - k
    let step := Nat.pow 10 grid.toNat <<< (2 - x.exponent).toNat
    let quarter := Nat.pow 10 (-grid).toNat <<< (x.exponent - 2).toNat
    let value := 4 * x.mantissa * quarter
    let atPower := x.mantissa = leastNormal ∧ minExponent < x.exponent
    let below := if atPower then quarter else 2 * quarter
    let fits (c : Nat) : Bool :=
      let v := c * step
      if x.mantissa % 2 = 0 then value ≤ v + below && v ≤ value + 2 * quarter
      else value < v + below && v < value + 2 * quarter
    let c := value / step
    match fits c, fits (c + 1) with
    | true, true => Shortest.ofGrid (divNearest value step) grid
    | true, false => Shortest.ofGrid c grid
    | false, true => Shortest.ofGrid (c + 1) grid
    | false, false => shortestFrom x point n (k + 1)

/-- The least `p` among `n` candidates from `start` with `x < 10 ^ p`. -/
def pointFrom (x : Binary64) : (n : Nat) → (start : Int) → Int
  | 0, start => start
  | n + 1, start =>
    if x.num * Nat.pow 10 (-start).toNat < x.den * Nat.pow 10 start.toNat then start
    else pointFrom x n (start + 1)

/-- The shortest decimal digits of a positive number. Seventeen always suffice. -/
def shortest (x : Binary64) : Shortest :=
  let bits : Int := x.mantissa.log2 + x.exponent
  let point := pointFrom x 4 (bits * 30103 / 100000 - 1)
  shortestFrom x point 17 1

end Binary64
end Composer
