import SqlFront.Text.Blank
import SqlFront.Text.Digit
/-!
# Numerals

Which texts are read as a whole number and which as a decimal number, when a literal's value
is taken as a number. Both readings share the same outer rules.

* A numeral may be surrounded by *edge blanks*: the six ASCII blanks (space, tab, line feed,
  vertical tab, form feed, carriage return) and any character beyond ASCII that is blank. The
  ASCII separators `U+001C` to `U+001F` are blank characters but no edge blanks.
* Its digits are decimal digits of any script: `١٢` and `１２` are numerals, `²` and `①` are
  not.
* An underscore may stand only between two digits.

A *whole numeral* is an optional sign and at least one digit, and holds at most 4300 digits
(underscores are not counted, leading zeros are). A *decimal numeral* is an optional sign
followed either by one of the words `inf`, `infinity`, `nan` in any mix of case, or by digits
with at most one point and at least one digit, and then optionally by an exponent: `e` or `E`,
an optional sign and at least one digit. A decimal numeral has no length limit.
-/

namespace SqlFront.Text.Numeral

/-- The most digits that a whole numeral may have. -/
def maxDigits : Nat := 4300

/-- Whether `c` may surround a numeral. -/
def isEdgeBlank (c : Char) : Bool :=
  if c.toNat < 128 then
    c = ' ' || c = '\t' || c = '\n' || c = '\x0b' || c = '\x0c' || c = '\r'
  else isBlank c

/-- The characters of `cs` without its edge blanks at either end. -/
def trim (cs : List Char) : List Char :=
  ((cs.dropWhile isEdgeBlank).reverse.dropWhile isEdgeBlank).reverse

/-- `cs` without one leading sign. -/
def dropSign : List Char → List Char
  | '+' :: cs => cs
  | '-' :: cs => cs
  | cs => cs

/-- The number of digits of a nonempty run of digits with single underscores between them,
or `none` if `cs` is not such a run. -/
def groupedDigits : List Char → Option Nat
  | [] => none
  | c :: cs => if isDecimal c then go cs 1 else none
where
  /-- The run continues after `n` digits. -/
  go : List Char → Nat → Option Nat
    | [], n => some n
    | '_' :: d :: cs, n => if isDecimal d then go cs (n + 1) else none
    | d :: cs, n => if isDecimal d then go cs (n + 1) else none

/-- Whether `s` is a whole numeral. -/
def isWhole (s : String) : Bool :=
  match groupedDigits (dropSign (trim s.toList)) with
  | some n => n ≤ maxDigits
  | none => false

/-- Whether every underscore of `cs` stands between two digits. -/
def underscoresBetweenDigits : List Char → Bool
  | [] => true
  | [c] => c ≠ '_'
  | c :: '_' :: cs =>
    match cs with
    | d :: _ => isDecimal c && isDecimal d && underscoresBetweenDigits cs
    | [] => false
  | '_' :: _ => false
  | _ :: cs => underscoresBetweenDigits cs

/-- Whether `cs` is an exponent: `e` or `E`, an optional sign and at least one digit; or
nothing at all. -/
def isExponent : List Char → Bool
  | [] => true
  | c :: cs =>
    (c = 'e' || c = 'E') && (let ds := dropSign cs; !ds.isEmpty && ds.all isDecimal)

/-- Whether `cs`, without sign and underscores, is the body of a decimal numeral. -/
def isDecimalBody (cs : List Char) : Bool :=
  let lower := cs.map Char.toLower
  if lower = "inf".toList || lower = "infinity".toList || lower = "nan".toList then true
  else
    let (whole, rest) := cs.span isDecimal
    let (fraction, rest) :=
      match rest with
      | '.' :: more => more.span isDecimal
      | _ => ([], rest)
    (whole.length + fraction.length > 0) && isExponent rest

/-- Whether `s` is a decimal numeral. -/
def isDecimalNumeral (s : String) : Bool :=
  let cs := trim s.toList
  underscoresBetweenDigits cs && isDecimalBody (dropSign (cs.filter (· ≠ '_')))

example : isWhole " -1_000 " ∧ isWhole "١٢" ∧ ¬ isWhole "²" ∧ ¬ isWhole "1__0" ∧
    ¬ isWhole "\x1c1" ∧ isWhole "　1" := by decide +kernel
example : isDecimalNumeral "1." ∧ isDecimalNumeral ".5" ∧ ¬ isDecimalNumeral "." ∧
    isDecimalNumeral "-InFiNiTy" ∧ isDecimalNumeral "1_0e1_0" ∧ ¬ isDecimalNumeral "1_e5" ∧
    ¬ isDecimalNumeral "1e" ∧ isDecimalNumeral "١.٢" := by decide +kernel

end SqlFront.Text.Numeral
