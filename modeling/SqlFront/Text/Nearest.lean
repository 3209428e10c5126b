import SqlFront.Text.Shortest
/-!
# The double nearest to a decimal

`nearestFloat neg m e` is the double nearest to the decimal `±m · 10^e`: of two equally near
doubles the one with an even significand, an infinity past the largest double (when the decimal
is at least halfway to the next power of two), and a zero of the decimal's sign below half the
least one. It is the reading that `floatText` writes for.

The decimal is the fraction `num / den` of whole numbers. With `k = ⌊log₂ (num / den)⌋`, the
double's last place is worth `2^q` for `q = max (k - 52) (-1074)`, and its significand is
`num / (den · 2^q)` rounded to the nearest whole number, a half to the even one. A significand
that rounds up to `2^53` moves to the next binade.
-/

namespace SqlFront.Text

/-- `num / den` rounded to the nearest whole number, a half to the even one. -/
def roundHalfEven (num den : Nat) : Nat :=
  let q := num / den
  let r := num % den
  if 2 * r < den then q
  else if 2 * r > den then q + 1
  else if q % 2 = 0 then q else q + 1

/-- The exponent `k` with `2^k ≤ num / den < 2^(k+1)`, for `num > 0` and `den > 0`. -/
def binaryExponent (num den : Nat) : Int :=
  let k₀ : Int := (num.log2 : Int) - (den.log2 : Int)
  -- the exponent is `k₀ - 1` or `k₀`
  if num * pow2 (-k₀) ≥ den * pow2 k₀ then k₀ else k₀ - 1

/-- The bits of positive infinity. -/
def infinityBits : Nat := 2047 * Nat.pow 2 52

/-- The bits of the nonnegative double nearest to `num / den`, for `num > 0` and `den > 0`. -/
def nearestBits (num den : Nat) : Nat :=
  let k := binaryExponent num den
  let q := max (k - 52) (-1074)
  let sig := roundHalfEven (num * pow2 (-q)) (den * pow2 q)
  let (sig, q) := if sig = Nat.pow 2 53 then (Nat.pow 2 52, q + 1) else (sig, q)
  if q > 971 then infinityBits
  else if sig < Nat.pow 2 52 then sig
  else (q + 1075).toNat * Nat.pow 2 52 + (sig - Nat.pow 2 52)

/-- The double nearest to `±m · 10^e`. -/
def nearestFloat (neg : Bool) (m : Nat) (e : Int) : Float :=
  let bits : Nat :=
    if m = 0 then 0
    -- at least `10^311`, far past the largest double
    else if e > 310 then infinityBits
    -- below `10^-324`, less than half the least double
    else if ((Nat.toDigits 10 m).length : Int) + e < -324 then 0
    else nearestBits (m * pow10 e) (pow10 (-e))
  Float.ofBits (bits + (if neg then Nat.pow 2 63 else 0)).toUInt64

end SqlFront.Text
