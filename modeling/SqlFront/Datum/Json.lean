import SqlFront.Datum
import SqlFront.Text.Nearest
/-!
# Data as JSON text

A datum is written and read as JSON text, with three extensions of the standard: the constants
`NaN`, `Infinity` and `-Infinity` are doubles, a number with a point or an exponent is a double
and any other number a whole number, and a tuple is written as a list.

## Reading

`Datum.ofJson?` reads one value, with blanks (space, tab, line feed, carriage return) around
it and between its parts. A whole number may have at most 4300 digits. A double is the one
nearest to the decimal written (`Text.nearestFloat`). A text may not hold a control character;
its escapes are `\"`, `\\`, `\/`, `\b`, `\f`, `\n`, `\r`, `\t` and `\u` with four hexadecimal
digits, where a high and a low surrogate escaped one after the other are one character, and a
surrogate on its own is a surrogate code of the text. A map keeps its keys in the order they
first appear, each with the last value written for it.

## Writing

`Datum.toJson` writes every code point of a text outside the printable ASCII range as `\u`
escapes (two, a surrogate pair, above `U+FFFF`), a finite double as its shortest decimal
(`Text.floatText`), and the others as the constants above.
-/

namespace SqlFront

namespace JsonText

/-! ### Writing -/

/-- Four lowercase hexadecimal digits of `n < 65536`. -/
def hex4 (n : Nat) : String :=
  let ds := Nat.toDigits 16 n
  String.ofList (List.replicate (4 - ds.length) '0' ++ ds)

/-- The escaped form of one character. -/
def escape (c : Char) : String :=
  match c with
  | '"' => "\\\""
  | '\\' => "\\\\"
  | '\n' => "\\n"
  | '\r' => "\\r"
  | '\t' => "\\t"
  | '\x08' => "\\b"
  | '\x0c' => "\\f"
  | c =>
    let n := c.toNat
    if 0x20 ≤ n ∧ n ≤ 0x7e then String.singleton c
    else if n < 0x10000 then "\\u" ++ hex4 n
    else
      let m := n - 0x10000
      "\\u" ++ hex4 (0xD800 + m / 0x400) ++ "\\u" ++ hex4 (0xDC00 + m % 0x400)

/-- The escaped form of one code point: a surrogate code by its number. -/
def escapeCode : CodePoint → String
  | .char c => escape c
  | .surrogate k => "\\u" ++ hex4 (0xD800 + k.val)

/-- A text as a JSON string. -/
def quote (s : Str) : String :=
  "\"" ++ String.join (s.map escapeCode) ++ "\""

/-- A double as a JSON number or constant. -/
def float (x : Float) : String :=
  match Text.Binary64.ofFloat x with
  | .nan => "NaN"
  | .infinite neg => if neg then "-Infinity" else "Infinity"
  | _ => Text.floatText x

end JsonText

namespace Datum

mutual

/-- The JSON text of a datum. -/
def toJson : Datum → String
  | none => "null"
  | bool b => if b then "true" else "false"
  | int n => toString n
  | float x => JsonText.float x
  | str s => JsonText.quote s
  | list xs => "[" ++ ", ".intercalate (toJsonAll xs) ++ "]"
  | tuple xs => "[" ++ ", ".intercalate (toJsonAll xs) ++ "]"
  | dict es => "\x7b" ++ ", ".intercalate (toJsonEntries es) ++ "\x7d"

/-- The JSON texts of the items of a list. -/
def toJsonAll : List Datum → List String
  | [] => []
  | x :: xs => toJson x :: toJsonAll xs

/-- The JSON texts of the entries of a map, as `key: value`. -/
def toJsonEntries : List (Str × Datum) → List String
  | [] => []
  | (k, v) :: es => (JsonText.quote k ++ ": " ++ toJson v) :: toJsonEntries es

end

end Datum

namespace JsonText

/-! ### Reading -/

/-- What reading a prefix of `cs` gives: a value and the characters after it, fewer than `cs`. -/
abbrev Read (cs : List Char) (α : Type) := Option (α × { r : List Char // r.length < cs.length })

/-- The blanks that may stand around values. -/
def isBlank (c : Char) : Bool := c = ' ' || c = '\t' || c = '\n' || c = '\r'

/-- The characters after the leading blanks. -/
def skip (cs : List Char) : List Char := cs.dropWhile isBlank

theorem length_skip_le (cs : List Char) : (skip cs).length ≤ cs.length :=
  (List.dropWhile_sublist _).length_le

/-- The value of a hexadecimal digit. -/
def hexValue (c : Char) : Option Nat :=
  if '0' ≤ c ∧ c ≤ '9' then some (c.toNat - '0'.toNat)
  else if 'a' ≤ c ∧ c ≤ 'f' then some (c.toNat - 'a'.toNat + 10)
  else if 'A' ≤ c ∧ c ≤ 'F' then some (c.toNat - 'A'.toNat + 10)
  else none

/-- The number written by four hexadecimal digits at the start of `cs`, and the rest. -/
def hexCode : List Char → Option (Nat × List Char)
  | a :: b :: c :: d :: r => do
    let ds ← [a, b, c, d].mapM hexValue
    return (ds.foldl (fun n x => 16 * n + x) 0, r)
  | _ => none

theorem hexCode_length {cs r : List Char} {n : Nat} (h : hexCode cs = some (n, r)) :
    r.length < cs.length := by
  match cs, h with
  | _ :: _ :: _ :: _ :: r', h =>
    simp only [hexCode, bind, Option.bind] at h
    split at h
    · simp at h
    · cases h; simp only [List.length_cons]; omega

/-- The code point of an escape `\u` with the code `u < 65536`, which takes a low surrogate from
the start of `cs` when `u` is a high one; and the characters after it. -/
def unicodeEscape (u : Nat) (cs : List Char) : CodePoint × List Char :=
  if 0xD800 ≤ u ∧ u < 0xDC00 then
    match cs with
    | '\\' :: 'u' :: r =>
      match hexCode r with
      | some (lo, r') =>
        if 0xDC00 ≤ lo ∧ lo < 0xE000 then
          (.char (Char.ofNat (0x10000 + (u - 0xD800) * 0x400 + (lo - 0xDC00))), r')
        else (CodePoint.ofNat u, cs)
      | none => (CodePoint.ofNat u, cs)
    | _ => (CodePoint.ofNat u, cs)
  else (CodePoint.ofNat u, cs)

theorem unicodeEscape_length (u : Nat) (cs : List Char) :
    (unicodeEscape u cs).2.length ≤ cs.length := by
  unfold unicodeEscape
  split
  · split
    · split
      · next h => split <;> (try simp) ; have := hexCode_length h; simp at this ⊢; omega
      · simp
    · simp
  · simp

/-- The character that a one-letter escape stands for. -/
def simpleEscape : Char → Option Char
  | '"' => some '"'
  | '\\' => some '\\'
  | '/' => some '/'
  | 'b' => some '\x08'
  | 'f' => some '\x0c'
  | 'n' => some '\n'
  | 'r' => some '\r'
  | 't' => some '\t'
  | _ => none

/-- The rest of a string after its opening quote, up to and with its closing quote; `acc`
holds the code points read so far, last first. -/
def stringBody (acc : Str) (cs : List Char) : Read cs Str :=
  match cs with
  | [] => none
  | '"' :: r => some (acc.reverse, ⟨r, by simp only [List.length_cons]; omega⟩)
  | '\\' :: 'u' :: r =>
    match h : hexCode r with
    | none => none
    | some (u, r') =>
      match hu : unicodeEscape u r' with
      | (c, r'') =>
        have : r''.length < r.length := by
          have h1 := hexCode_length h
          have h2 := unicodeEscape_length u r'
          rw [hu] at h2; simp only at h2; omega
        match stringBody (c :: acc) r'' with
        | some (s, ⟨rest, hr⟩) => some (s, ⟨rest, by simp only [List.length_cons]; omega⟩)
        | none => none
  | '\\' :: e :: r =>
    match simpleEscape e with
    | some c =>
      match stringBody (.char c :: acc) r with
      | some (s, ⟨rest, hr⟩) => some (s, ⟨rest, by simp only [List.length_cons]; omega⟩)
      | none => none
    | none => none
  | c :: r =>
    if c.toNat < 0x20 then none
    else
      match stringBody (.char c :: acc) r with
      | some (s, ⟨rest, hr⟩) => some (s, ⟨rest, by simp only [List.length_cons]; omega⟩)
      | none => none
termination_by cs.length

/-- The leading decimal digits of `cs`, and the rest. -/
def digits (cs : List Char) : List Char × List Char :=
  (cs.takeWhile Char.isDigit, cs.dropWhile Char.isDigit)

theorem digits_length (cs : List Char) : (digits cs).2.length ≤ cs.length :=
  (List.dropWhile_sublist _).length_le

/-- The value of a list of decimal digits. -/
def digitsValue (ds : List Char) : Nat :=
  ds.foldl (fun n c => 10 * n + (c.toNat - '0'.toNat)) 0

/-- The fraction of a number: a point and at least one digit at the start of `cs`, and the
rest; nothing and all of `cs` if they are not there. -/
def fraction (cs : List Char) : Option (List Char) × List Char :=
  match cs with
  | '.' :: d :: r => if d.isDigit then ((some (d :: (digits r).1)), (digits r).2) else (none, cs)
  | _ => (none, cs)

theorem fraction_length (cs : List Char) : (fraction cs).2.length ≤ cs.length := by
  unfold fraction
  split
  · split
    · have := digits_length ‹List Char›; simp; omega
    · simp
  · simp

/-- The sign of an exponent at the start of `cs`, and the rest. -/
def exponentSign (cs : List Char) : Bool × List Char :=
  match cs with
  | '-' :: r => (true, r)
  | '+' :: r => (false, r)
  | _ => (false, cs)

theorem exponentSign_length (cs : List Char) : (exponentSign cs).2.length ≤ cs.length := by
  unfold exponentSign; split <;> simp

/-- The exponent of a number: `e` or `E`, a sign and at least one digit at the start of `cs`,
and the rest; nothing and all of `cs` if they are not there. -/
def exponent (cs : List Char) : Option Int × List Char :=
  match cs with
  | e :: r =>
    if e = 'e' ∨ e = 'E' then
      if (digits (exponentSign r).2).1.isEmpty then (none, cs)
      else
        let n : Int := digitsValue (digits (exponentSign r).2).1
        (some (if (exponentSign r).1 then -n else n), (digits (exponentSign r).2).2)
    else (none, cs)
  | [] => (none, cs)

theorem exponent_length (cs : List Char) : (exponent cs).2.length ≤ cs.length := by
  unfold exponent
  split
  · next e r =>
    split
    · split
      · simp
      · have := exponentSign_length r
        have := digits_length (exponentSign r).2
        simp only [List.length_cons]; omega
    · simp
  · simp

/-- The most digits a whole number may have. -/
def maxIntDigits : Nat := 4300

/-- The datum of a number with sign `neg`, whole part `whole`, and the fraction and exponent
if they are given: a double if either is, else a whole number of at most `maxIntDigits`
digits. -/
def numberValue (neg : Bool) (whole : List Char) (frac : Option (List Char)) (expo : Option Int) :
    Option Datum :=
  match frac, expo with
  | none, none =>
    if whole.length > maxIntDigits then none
    else
      let n : Int := digitsValue whole
      some (.int (if neg then -n else n))
  | _, _ =>
    let fs := frac.getD []
    some (.float (Text.nearestFloat neg (digitsValue (whole ++ fs)) (expo.getD 0 - fs.length)))

/-- The whole part of a number that starts with the digit `d`, before `r`: `0` alone, or `d`
and the digits after it; and the rest. -/
def wholePart (d : Char) (r : List Char) : List Char × List Char :=
  if d = '0' then (['0'], r) else (d :: (digits r).1, (digits r).2)

theorem wholePart_length (d : Char) (r : List Char) : (wholePart d r).2.length ≤ r.length := by
  unfold wholePart; split
  · simp
  · exact digits_length r

/-- A number at the start of `cs`, after its sign: the whole part, then the fraction and the
exponent if they are there. -/
def number (neg : Bool) (cs : List Char) : Read cs Datum :=
  match cs with
  | d :: r =>
    if d.isDigit then
      (numberValue neg (wholePart d r).1 (fraction (wholePart d r).2).1
        (exponent (fraction (wholePart d r).2).2).1).map fun v =>
        (v, ⟨(exponent (fraction (wholePart d r).2).2).2, by
          have := wholePart_length d r
          have := fraction_length (wholePart d r).2
          have := exponent_length (fraction (wholePart d r).2).2
          simp only [List.length_cons]; omega⟩)
    else none
  | [] => none

/-- The entries of a map with the entry `k ↦ v` put in: in the place of an entry for `k` if
there is one, else at the end. -/
def putEntry (es : List (Str × Datum)) (k : Str) (v : Datum) : List (Str × Datum) :=
  if es.any (·.1 == k) then es.map fun e => if e.1 == k then (k, v) else e
  else es ++ [(k, v)]

/-- A string at the start of `cs`: a quote, then its body. -/
def string (cs : List Char) : Read cs Str :=
  match cs with
  | '"' :: r =>
    match stringBody [] r with
    | some (s, ⟨rest, h⟩) => some (s, ⟨rest, by simp only [List.length_cons]; omega⟩)
    | none => none
  | _ => none

/-- A constant or a number at the start of `cs`. -/
def scalar (cs : List Char) : Read cs Datum :=
  match cs with
  | 'n' :: 'u' :: 'l' :: 'l' :: r => some (.none, ⟨r, by simp only [List.length_cons]; omega⟩)
  | 't' :: 'r' :: 'u' :: 'e' :: r => some (.bool true, ⟨r, by simp only [List.length_cons]; omega⟩)
  | 'f' :: 'a' :: 'l' :: 's' :: 'e' :: r =>
    some (.bool false, ⟨r, by simp only [List.length_cons]; omega⟩)
  | 'N' :: 'a' :: 'N' :: r => some (.float (0.0 / 0.0), ⟨r, by simp only [List.length_cons]; omega⟩)
  | 'I' :: 'n' :: 'f' :: 'i' :: 'n' :: 'i' :: 't' :: 'y' :: r =>
    some (.float (1.0 / 0.0), ⟨r, by simp only [List.length_cons]; omega⟩)
  | '-' :: 'I' :: 'n' :: 'f' :: 'i' :: 'n' :: 'i' :: 't' :: 'y' :: r =>
    some (.float (-1.0 / 0.0), ⟨r, by simp only [List.length_cons]; omega⟩)
  | '-' :: r =>
    match number true r with
    | some (v, ⟨rest, h⟩) => some (v, ⟨rest, by simp only [List.length_cons]; omega⟩)
    | none => none
  | other => number false other

mutual

/-- A value at the start of `cs`, after blanks. -/
def value (cs : List Char) : Read cs Datum :=
  match h : skip cs with
  | '[' :: r =>
    match h' : skip r with
    | ']' :: r' => some (.list [], ⟨r', by
        have h1 := length_skip_le cs; have h2 := length_skip_le r
        rw [h] at h1; rw [h'] at h2; simp only [List.length_cons] at h1 h2; omega⟩)
    | _ =>
      match items #[] r with
      | some (v, ⟨rest, h'⟩) => some (v, ⟨rest, by
          have := length_skip_le cs; rw [h] at this; simp only [List.length_cons] at this; omega⟩)
      | none => none
  | '{' :: r =>
    match h' : skip r with
    | '}' :: r' => some (.dict [], ⟨r', by
        have h1 := length_skip_le cs; have h2 := length_skip_le r
        rw [h] at h1; rw [h'] at h2; simp only [List.length_cons] at h1 h2; omega⟩)
    | _ =>
      match entries [] r with
      | some (v, ⟨rest, h'⟩) => some (v, ⟨rest, by
          have := length_skip_le cs; rw [h] at this; simp only [List.length_cons] at this; omega⟩)
      | none => none
  | '"' :: r =>
    match string ('"' :: r) with
    | some (s, ⟨rest, h'⟩) => some (.str s, ⟨rest, by
        have := length_skip_le cs; rw [h] at this; omega⟩)
    | none => none
  | c :: r =>
    match scalar (c :: r) with
    | some (v, ⟨rest, h'⟩) => some (v, ⟨rest, by
        have := length_skip_le cs; rw [h] at this; omega⟩)
    | none => none
  | [] => none
termination_by 2 * cs.length
decreasing_by all_goals (have hs := length_skip_le cs; rw [h] at hs; simp only [List.length_cons] at hs; omega)

/-- The items of a list after its opening bracket and those in `acc`: a value, then a comma
and more items, or the closing bracket. -/
def items (acc : Array Datum) (cs : List Char) : Read cs Datum :=
  match value cs with
  | some (v, ⟨r, hr⟩) =>
    match h : skip r with
    | ']' :: r' => some (.list (acc.push v).toList, ⟨r', by
        have := length_skip_le r; rw [h] at this; simp only [List.length_cons] at this; omega⟩)
    | ',' :: r' =>
      match items (acc.push v) r' with
      | some (d, ⟨rest, h'⟩) => some (d, ⟨rest, by
          have := length_skip_le r; rw [h] at this; simp only [List.length_cons] at this; omega⟩)
      | none => none
    | _ => none
  | none => none
termination_by 2 * cs.length + 1
decreasing_by
  all_goals
    first
      | omega
      | (have h2 := length_skip_le r; rw [h] at h2; simp only [List.length_cons] at h2; omega)

/-- The entries of a map after its opening brace and those in `acc`: a string, a colon and a
value, then a comma and more entries, or the closing brace. -/
def entries (acc : List (Str × Datum)) (cs : List Char) : Read cs Datum :=
  match string (skip cs) with
  | some (k, ⟨r, hr⟩) =>
    match h : skip r with
    | ':' :: r' =>
      match value r' with
      | some (v, ⟨r'', hv⟩) =>
        let acc := putEntry acc k v
        match h' : skip r'' with
        | '}' :: rest => some (.dict acc, ⟨rest, by
            have := length_skip_le cs; have := length_skip_le r; have := length_skip_le r''
            rw [h] at *; rw [h'] at *; simp only [List.length_cons] at *; omega⟩)
        | ',' :: rest =>
          match entries acc rest with
          | some (d, ⟨rest', h''⟩) => some (d, ⟨rest', by
              have := length_skip_le cs; have := length_skip_le r; have := length_skip_le r''
              rw [h] at *; rw [h'] at *; simp only [List.length_cons] at *; omega⟩)
          | none => none
        | _ => none
      | none => none
    | _ => none
  | none => none
termination_by 2 * cs.length + 1
decreasing_by
  all_goals
    have h1 := length_skip_le cs
    have h2 := length_skip_le r
    rw [h] at h2; simp only [List.length_cons] at h2
    first
      | omega
      | (have h3 := length_skip_le r''; rw [h'] at h3; simp only [List.length_cons] at h3; omega)

end

end JsonText

/-- Read a datum from its JSON text: one value, with only blanks after it. -/
def Datum.ofJson? (s : String) : Option Datum :=
  match JsonText.value s.toList with
  | some (d, ⟨r, _⟩) => if (JsonText.skip r).isEmpty then some d else Option.none
  | Option.none => Option.none

end SqlFront
