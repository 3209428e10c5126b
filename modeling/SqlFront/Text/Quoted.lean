import SqlFront.Str
import SqlFront.Text.Printable
/-!
# Quoted texts

The quoted form of a text, as it appears inside messages and inside the written form of a list:
the text between two quotes, with every character that would be ambiguous or invisible written
as an escape.

* The quote is `'`, unless the text holds a `'` and no `"`; then it is `"`.
* A backslash and the chosen quote are preceded by a backslash; tab, line feed and carriage
  return are written `\t`, `\n` and `\r`.
* Any other ASCII control character, any character outside ASCII that is not printable, and
  any surrogate code is written by its code point in hexadecimal: `\xhh` up to `0xff`, `\uhhhh` up to `0xffff`, and
  `\Uhhhhhhhh` beyond.
* Every other character stands for itself.
-/

namespace SqlFront.Text

/-- The lowercase hexadecimal digits of `n`, padded with zeros on the left to `width`. -/
def hexDigits (width n : Nat) : String :=
  let ds := Nat.toDigits 16 n
  String.ofList (List.replicate (width - ds.length) '0' ++ ds)

/-- The written form of one character inside a text quoted by `q`. -/
def escapeChar (q c : Char) : String :=
  if c = q || c = '\\' then String.ofList ['\\', c]
  else if c = '\t' then "\\t"
  else if c = '\n' then "\\n"
  else if c = '\r' then "\\r"
  else if c.toNat < 0x20 || c.toNat = 0x7f then "\\x" ++ hexDigits 2 c.toNat
  else if c.toNat < 0x7f || isPrintable c then String.singleton c
  else if c.toNat ≤ 0xff then "\\x" ++ hexDigits 2 c.toNat
  else if c.toNat ≤ 0xffff then "\\u" ++ hexDigits 4 c.toNat
  else "\\U" ++ hexDigits 8 c.toNat

/-- The written form of one code point inside a text quoted by `q`: a surrogate code is never
printable. -/
def escapeCode (q : Char) : CodePoint → String
  | .char c => escapeChar q c
  | .surrogate k => "\\u" ++ hexDigits 4 (0xD800 + k.val)

/-- The quote that encloses `s`: a double quote exactly when `s` holds a single quote and no
double quote. -/
def quoteFor (s : Str) : Char :=
  if s.contains (.char '\'') && !s.contains (.char '"') then '"' else '\''

/-- The quoted form of `s`. It holds no surrogate code, so it is a string. -/
def quote (s : Str) : String :=
  let q := quoteFor s
  String.singleton q ++ String.join (s.map (escapeCode q)) ++ String.singleton q

example : quote "abc" = "'abc'" := by decide +kernel
example : quote "it's" = "\"it's\"" := by decide +kernel
example : quote "a'b\"c" = "'a\\'b\"c'" := by decide +kernel
example : quote "t\x01\n" = "'t\\x01\\n'" := by decide +kernel
example : quote [.surrogate 2047] = "'\\udfff'" := by decide +kernel

end SqlFront.Text
