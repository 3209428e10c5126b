import SqlFront.Str
/-!
# Tokens

A token is a kind, the text it was read from (its *lexeme*) and the line and column where that
text begins. Kinds are named as the language spells them (`SELECT`, `IDENTIFIER`,
`NOT_EQUAL`, …); `TokenKind.name` gives that spelling and `TokenKind.ofName` reads it back.

Two kinds are shared or never scanned:

* `float` is the kind of the reserved word `FLOAT` and also of a number with a point;
* `null` and `eof` are never produced by the scanner. A list of tokens made by hand may hold
  them, as it may hold any other kind (`other`), and the parser knows `null` as a value and
  `eof` as the end of its input.

Positions are integers: the scanner counts lines and columns from 1, and the end of the input
is marked by a token at line and column `-1`.
-/

namespace SqlFront

/-- The kind of a token. -/
inductive TokenKind where
  | select | «from» | «where» | insert | into | values | update | set | delete | create | table
  | int | float | text | and | or | not
  | identifier | number | string | null
  | equal | notEqual | less | greater | lessEqual | greaterEqual
  | plus | minus | multiply | divide
  | leftParen | rightParen | comma | semicolon | dot
  | eof
  | other (name : String)
  deriving DecidableEq, Repr, Inhabited

namespace TokenKind

/-- The kind's name, as the language spells it. -/
def name : TokenKind → String
  | select => "SELECT" | .from => "FROM" | .where => "WHERE" | insert => "INSERT"
  | into => "INTO" | values => "VALUES" | update => "UPDATE" | set => "SET"
  | delete => "DELETE" | create => "CREATE" | table => "TABLE" | int => "INT"
  | float => "FLOAT" | text => "TEXT" | and => "AND" | or => "OR" | not => "NOT"
  | identifier => "IDENTIFIER" | number => "NUMBER" | string => "STRING" | null => "NULL"
  | equal => "EQUAL" | notEqual => "NOT_EQUAL" | less => "LESS" | greater => "GREATER"
  | lessEqual => "LESS_EQUAL" | greaterEqual => "GREATER_EQUAL" | plus => "PLUS"
  | minus => "MINUS" | multiply => "MULTIPLY" | divide => "DIVIDE"
  | leftParen => "LEFT_PAREN" | rightParen => "RIGHT_PAREN" | comma => "COMMA"
  | semicolon => "SEMICOLON" | dot => "DOT" | eof => "EOF" | other n => n

/-- The reserved words, each its own kind; a word is reserved only in upper case. -/
def reserved : List TokenKind :=
  [select, .from, .where, insert, into, values, update, set, delete, create, table,
    int, float, text, and, or, not]

/-- Every kind that has a name of its own. -/
def named : List TokenKind :=
  reserved ++ [identifier, number, string, null, equal, notEqual, less, greater, lessEqual,
    greaterEqual, plus, minus, multiply, divide, leftParen, rightParen, comma, semicolon, dot,
    eof]

/-- The kind of the reserved word `w`, if `w` is one. -/
def ofReserved? (w : String) : Option TokenKind :=
  reserved.find? (·.name == w)

/-- The kind named `s`: a kind with a name of its own, or `other s`. -/
def ofName (s : String) : TokenKind :=
  (named.find? (·.name == s)).getD (other s)

/-- The kinds at which a statement begins. -/
def startsStatement : TokenKind → Bool
  | create | insert | select | update | delete => true
  | _ => false

/-- The kinds at which recovery from a syntax error stops: a semicolon, the start of a
statement, or the end. -/
def synchronizes (k : TokenKind) : Bool :=
  k == semicolon || k.startsStatement || k == eof

/-- The kinds of a value in a list of values or an assignment. -/
def isValue : TokenKind → Bool
  | number | float | string | null => true
  | _ => false

/-- The kinds of a literal operand of a condition. -/
def isLiteral : TokenKind → Bool
  | number | float | string => true
  | _ => false

/-- The kinds of a type in a column definition, besides a name. -/
def isTypeWord : TokenKind → Bool
  | int | float | text => true
  | _ => false

/-- The comparison operators. -/
def isComparison : TokenKind → Bool
  | equal | notEqual | less | greater | lessEqual | greaterEqual => true
  | _ => false

/-- The operators of sums. -/
def isAdditive : TokenKind → Bool
  | plus | minus => true
  | _ => false

/-- The operators of products. -/
def isMultiplicative : TokenKind → Bool
  | multiply | divide => true
  | _ => false

example : ofName "NOT_EQUAL" = notEqual ∧ ofName "BOOLEAN" = other "BOOLEAN" ∧
    ofReserved? "FROM" = some .from ∧ ofReserved? "from" = none := by decide

end TokenKind

/-- A token: its kind, its text and where the text begins. -/
structure Token where
  kind : TokenKind
  lexeme : Str
  line : Int
  column : Int
  deriving DecidableEq, Repr, Inhabited

namespace Token

/-- The token that stands for the end of the input. -/
def endMarker : Token := ⟨.eof, [], -1, -1⟩

/-- The one-line description of a token: `Token: <kind>, Lexeme: <lexeme>`. -/
def describe (t : Token) : Str :=
  "Token: " ++ t.kind.name ++ ", Lexeme: " ++ t.lexeme

end Token

end SqlFront
