import SqlFront.Str
import SqlFront.Text.Numeral
/-!
# Value types

The types of the language: the three types a column may be declared with, `INT`, `FLOAT` and
`TEXT`, and the type `UNKNOWN` of a literal that is none of them.

A literal is typed by its text alone, in this order: a text that begins and ends with a quote
is `TEXT` (a lone quote counts), a whole numeral is `INT`, a decimal numeral is `FLOAT`, and
anything else is `UNKNOWN`. A text that holds a surrogate code is no numeral, since a surrogate
code is neither a digit nor a blank. A value may be stored in a column of its own type, and a whole
number may also be stored in a `FLOAT` column.
-/

namespace SqlFront

/-- The type of a column or of a value. -/
inductive SqlType where
  | int
  | float
  | text
  | unknown
  deriving DecidableEq, Repr, Inhabited

namespace SqlType

/-- The name of the type, as the language spells it. -/
def name : SqlType → String
  | int => "INT"
  | float => "FLOAT"
  | text => "TEXT"
  | unknown => "UNKNOWN"

/-- The types a column may be declared with, by their names. -/
def ofDeclared? : String → Option SqlType
  | "INT" => some int
  | "FLOAT" => some float
  | "TEXT" => some text
  | _ => none

/-- Whether a column may be declared with this type. -/
def isDeclarable : SqlType → Bool
  | unknown => false
  | _ => true

/-- The type of a literal, read off its text. -/
def ofLiteral (s : Str) : SqlType :=
  if s.head? == some (.char '\'') && s.getLast? == some (.char '\'') then text
  else
    match Str.toString? s with
    | some t =>
      if Text.Numeral.isWhole t then int
      else if Text.Numeral.isDecimalNumeral t then float
      else unknown
    | none => unknown

/-- Whether a value of type `value` may be stored in a column of type `column`. -/
def accepts (column value : SqlType) : Bool :=
  column == value || (column == float && value == int)

theorem ofDeclared?_name {t : SqlType} (h : t.isDeclarable) : ofDeclared? t.name = some t := by
  cases t <;> simp_all [isDeclarable, name, ofDeclared?]

theorem isDeclarable_of_ofDeclared? {s : String} {t : SqlType} (h : ofDeclared? s = some t) :
    t.isDeclarable := by
  unfold ofDeclared? at h
  split at h <;> simp_all [isDeclarable] <;> subst h <;> rfl

example : ofLiteral "'" = text ∧ ofLiteral "1_0" = int ∧ ofLiteral "nan" = float ∧
    ofLiteral "²" = unknown ∧ ofLiteral [.char '1', .surrogate 0] = unknown := by decide +kernel

end SqlType

end SqlFront
