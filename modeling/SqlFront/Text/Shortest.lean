/-!
# The shortest decimal of a double

A finite nonzero double is `m · 2^q` for a whole `m > 0` and an integer `q`. The reals that
round to it (to nearest, ties to the even significand) form an interval around it, its
*rounding interval*: it reaches half a step to each neighbour, where the step below a power of
two is half the step above it, and its ends belong to it when `m` is even.

The *shortest decimal* of the double is the decimal `d · 10^g` with the fewest significant
digits in its rounding interval. On the grid of `n` significant digits only the two grid points
around the double can lie in the interval, so the search tries, for `n = 1, 2, …, 17`, the grid
point below and the one above, and stops at the first `n` with a hit: of two hits it takes the
nearer, and of two equally near the one with an even `d`. Seventeen digits always hit.

## Written form

A double is written as its shortest decimal with the digits `ds` of `d` (no trailing zeros) and
the *point position* `p = |ds| + g`, the value being `0.ds · 10^p`:

* positionally when `-4 < p ≤ 16`: `0.0001`, `1.5`, `100.0` (a whole number gets `.0`);
* otherwise as a digit, the other digits after a point if there are any, `e`, a sign and at
  least two digits of the exponent `p - 1`: `1e-05`, `1e+16`, `2.5e+300`.

Zero is `0.0` or `-0.0`, and the other special values are `inf`, `-inf` and `nan`.
-/

namespace SqlFront.Text

/-- What the bits of a double stand for. -/
inductive Binary64 where
  /-- Not a number. -/
  | nan
  /-- An infinity, negative or positive. -/
  | infinite (neg : Bool)
  /-- A zero, negative or positive. -/
  | zero (neg : Bool)
  /-- The value `±m · 2^q`, `m > 0`; `lowGap` when the neighbour below is nearer than the one
  above (`m` is the least significand of a binade above the lowest). -/
  | finite (neg : Bool) (m : Nat) (q : Int) (lowGap : Bool)
  deriving DecidableEq, Repr

namespace Binary64

/-- Decode the bits of a double. -/
def ofBits (b : UInt64) : Binary64 :=
  let n : Nat := b.toNat
  let neg : Bool := n / Nat.pow 2 63 % 2 = 1
  let e : Nat := n / Nat.pow 2 52 % Nat.pow 2 11
  let f : Nat := n % Nat.pow 2 52
  if e = 2047 then (if f = 0 then .infinite neg else .nan)
  else if e = 0 then (if f = 0 then .zero neg else .finite neg f (-1074) false)
  else .finite neg (f + Nat.pow 2 52) ((e : Int) - 1075) (f = 0 && e > 1)

/-- Decode a double. -/
def ofFloat (x : Float) : Binary64 := ofBits x.toBits

end Binary64

/-- `2 ^ k` for an integer `k ≥ 0`, and `1` otherwise. -/
def pow2 (k : Int) : Nat := Nat.pow 2 k.toNat

/-- `10 ^ k` for an integer `k ≥ 0`, and `1` otherwise. -/
def pow10 (k : Int) : Nat := Nat.pow 10 k.toNat

/-- Compare `a · 2^s` with `b · 10^g`. -/
def compareScaled (a : Nat) (s : Int) (b : Nat) (g : Int) : Ordering :=
  compare (a * pow2 s * pow10 (-g)) (b * pow10 g * pow2 (-s))

/-- The number of decimal digits of `n`, less one: `⌊log₁₀ n⌋` for `n > 0`. -/
def log10 (n : Nat) : Nat := (Nat.toDigits 10 n).length - 1

/-- The exponent `e` with `10^e ≤ m · 2^q < 10^(e+1)`, for `m > 0`. -/
def decimalExponent (m : Nat) (q : Int) : Int :=
  let e₀ : Int := (log10 (m * pow2 q) : Int) - (log10 (pow2 (-q)) : Int)
  -- the exponent is `e₀ - 1`, `e₀` or `e₀ + 1`
  if compareScaled m q 1 (e₀ + 1) != .lt then e₀ + 1
  else if compareScaled m q 1 e₀ != .lt then e₀
  else e₀ - 1

/-- Whether `d · 10^g` lies in the rounding interval of `m · 2^q`. -/
def inRoundingInterval (m : Nat) (q : Int) (lowGap : Bool) (d : Nat) (g : Int) : Bool :=
  -- with `s = q - 2` the double is `4m · 2^s` and its neighbours' midpoints are whole multiples
  let s := q - 2
  let lo := if lowGap then 4 * m - 1 else 4 * m - 2
  let hi := 4 * m + 2
  let inclusive := m % 2 = 0
  let aboveLo := match compareScaled lo s d g with
    | .lt => true
    | .eq => inclusive
    | .gt => false
  let belowHi := match compareScaled hi s d g with
    | .gt => true
    | .eq => inclusive
    | .lt => false
  aboveLo && belowHi

/-- The hit on the grid `10^g` for the double `m · 2^q`, if one of the two grid points around
it lies in its rounding interval. -/
def gridHit (m : Nat) (q : Int) (lowGap : Bool) (g : Int) : Option Nat :=
  let below := m * pow2 q * pow10 (-g) / (pow2 (-q) * pow10 g)
  let above := below + 1
  match inRoundingInterval m q lowGap below g, inRoundingInterval m q lowGap above g with
  | true, true =>
    -- the nearer one: compare `2v` with `(2 below + 1) · 10^g`
    match compareScaled (2 * m) q (2 * below + 1) g with
    | .lt => some below
    | .gt => some above
    | .eq => some (if below % 2 = 0 then below else above)
  | true, false => some below
  | false, true => some above
  | false, false => none

/-- The shortest decimal `(d, g)` of `m · 2^q`, `m > 0`. -/
def shortest (m : Nat) (q : Int) (lowGap : Bool) : Nat × Int :=
  let e := decimalExponent m q
  let rec search : List Nat → Nat × Int
    | [] => (m * pow2 q / pow2 (-q), 0)
    | n :: ns =>
      let g := e - n + 1
      match gridHit m q lowGap g with
      | some d => (d, g)
      | none => search ns
  search ((List.range 17).map (· + 1))

/-- The decimal digits of `d` without its trailing zeros, and how many were removed. -/
def stripZeros (d : Nat) : List Char × Nat :=
  let ds := (Nat.toDigits 10 d).reverse
  let zeros := (ds.takeWhile (· = '0')).length
  ((ds.drop zeros).reverse, zeros)

/-- The written form of the decimal `0.ds · 10^p`. -/
def decimalText (ds : List Char) (p : Int) : String :=
  let zeros (k : Nat) := String.ofList (List.replicate k '0')
  let digits := String.ofList ds
  if -4 < p ∧ p ≤ 16 then
    if p ≤ 0 then "0." ++ zeros (-p).toNat ++ digits
    else if p.toNat ≥ ds.length then digits ++ zeros (p.toNat - ds.length) ++ ".0"
    else String.ofList (ds.take p.toNat) ++ "." ++ String.ofList (ds.drop p.toNat)
  else
    let x := p - 1
    let mantissa := match ds with
      | [c] => String.singleton c
      | c :: rest => String.singleton c ++ "." ++ String.ofList rest
      | [] => "0"
    let expDigits := toString x.natAbs
    mantissa ++ "e" ++ (if x < 0 then "-" else "+") ++
      (if expDigits.length < 2 then "0" else "") ++ expDigits

/-- The written form of a double. -/
def floatText (x : Float) : String :=
  match Binary64.ofFloat x with
  | .nan => "nan"
  | .infinite neg => if neg then "-inf" else "inf"
  | .zero neg => if neg then "-0.0" else "0.0"
  | .finite neg m q lowGap =>
    let (d, g) := shortest m q lowGap
    let (ds, z) := stripZeros d
    (if neg then "-" else "") ++ decimalText ds (ds.length + g + z)

end SqlFront.Text
