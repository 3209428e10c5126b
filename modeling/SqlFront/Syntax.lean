import SqlFront.Token
import SqlFront.Datum
/-!
# Statements and conditions

The syntax of a program as the parser builds it: a list of statements, each of which may carry
conditions. Names, values and operators are kept as the lexemes they were read from, so a value
`'x'` keeps its quotes and an operator `==` is kept as written.

The parser reads *terminals*: tokens whose kind, lexeme and position are data. A token of the
scanner is a terminal with a text for its kind and lexeme and numbers for its position; a list
of terminals made by hand may hold any datum in any of the four. A terminal is of a kind when
its kind is the text that names that kind; a kind that is no text names none, and neither does
a text that holds a surrogate code.

A part that a syntax error left out is nothing (`Datum.none`): the parser reports the error,
skips ahead and builds what it can. The placeholder operand that stands for a missing operand
is a literal whose value is nothing.

Each statement and operator carries the place of the token it was built from: a `CREATE` the
place of its table name (so it has none when the name is missing), any other statement the place
of its keyword, a comparison or connective the place of its operator, and a column or literal the
place of its own token. A negation carries no place.
-/

namespace SqlFront

/-- A line and a column in the source, as a terminal carries them. -/
structure Place where
  line : Datum
  column : Datum
  deriving Repr, Inhabited

/-- A token as the parser reads it: a kind, a lexeme, a line and a column, each a datum. -/
structure Terminal where
  kind : Datum
  lexeme : Datum
  line : Datum
  column : Datum
  deriving Repr, Inhabited

/-- The terminal of a scanned token. -/
def Token.toTerminal (t : Token) : Terminal :=
  ⟨.str t.kind.name, .str t.lexeme, .int t.line, .int t.column⟩

namespace Terminal

/-- The terminal past the last one: the end marker. -/
def endMarker : Terminal := Token.endMarker.toTerminal

/-- The kind the terminal is of, if its kind is a text. -/
def kind? (t : Terminal) : Option TokenKind :=
  match t.kind with
  | .str s => (Str.toString? s).map TokenKind.ofName
  | _ => none

/-- Whether the terminal is of the kind `k`. -/
def hasKind (k : TokenKind) (t : Terminal) : Bool := t.kind? == some k

/-- Whether the terminal is of a kind that satisfies `p`. -/
def kindIs (p : TokenKind → Bool) (t : Terminal) : Bool := t.kind?.any p

/-- Where the terminal begins. -/
def place (t : Terminal) : Place := ⟨t.line, t.column⟩

end Terminal

/-- A condition: a comparison, connective or arithmetic operation, a negation, a column or a
literal. -/
inductive Cond where
  /-- An operation `lhs op rhs`, with the operator's lexeme and place. -/
  | binary (op : Datum) (lhs rhs : Cond) (place : Place)
  /-- The negation of a condition. -/
  | not (arg : Cond)
  /-- A column, by name. -/
  | column (name : Datum) (place : Place)
  /-- A literal, by its lexeme; nothing for the placeholder of a missing operand. -/
  | literal (value : Datum) (place : Place)
  deriving Repr, Inhabited

/-- A statement. -/
inductive Stmt where
  /-- `CREATE TABLE name (col type, …)`: the table's name with its place, if the name was
  read, and the column definitions. -/
  | create (table : Option (Datum × Place)) (columns : List (Datum × Datum))
  /-- `INSERT INTO name VALUES (v, …)`. -/
  | insert (table : Datum) (values : List Datum) (place : Place)
  /-- `SELECT items FROM name [WHERE cond]`; the items are `["*"]` for a star. -/
  | select (items : List Datum) (table : Datum) (filter : Option Cond) (place : Place)
  /-- `UPDATE name SET col = v, … [WHERE cond]`. -/
  | update (table : Datum) (assignments : List (Datum × Datum)) (filter : Option Cond)
      (place : Place)
  /-- `DELETE FROM name [WHERE cond]`. -/
  | delete (table : Datum) (filter : Option Cond) (place : Place)
  deriving Repr, Inhabited

/-- A program: its statements in order. -/
abbrev Program := List Stmt

end SqlFront
