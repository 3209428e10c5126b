import SqlFront.Token
import SqlFront.Text.Blank
import SqlFront.Text.Digit
import SqlFront.Text.Numeric
/-!
# Scanning source text into tokens

The scanner reads the source from left to right, one *piece* at a time. At each place it looks
at the next character (and the one after it) and takes, in this order:

1. a blank character, which is skipped;
2. `--` and everything up to the next line feed (not included), a line comment, skipped;
3. `##` and everything up to and including the next `##`, a block comment, skipped; without
   a closing `##` the rest of the input is taken and an *unclosed comment* is reported;
4. a quote and everything up to and including the next quote, a `STRING` token whose lexeme
   keeps both quotes; without a closing quote the rest of the input is taken and an
   *unclosed string* is reported;
5. a digit and the digits after it, then at most one point and the digits after that: a
   `FLOAT` token if there is a point, a `NUMBER` token otherwise;
6. a letter and the alphanumerics and underscores after it: a reserved word if the text is
   one, an `IDENTIFIER` token otherwise;
7. one of `==`, `!=`, `<=`, `>=`, or one of the characters `= < > + - * / ( ) , ; .`;
8. any other character, which is reported as invalid and skipped.

The source is a text of code points; a surrogate code begins no token, so it is reported as an
invalid character. Every piece takes at least one code point, so the scan is a recursion on the
length of the rest. Lines and columns count code points from 1, and only a line feed begins a
new line.

Besides the tokens and the errors, a scan yields the identifiers in the order of their first
occurrence, each with the place where it first occurs.
-/

namespace SqlFront

/-- A place in the source: line and column, both counted from 1. -/
structure Pos where
  line : Nat
  column : Nat
  deriving DecidableEq, Repr, Inhabited

namespace Pos

/-- The first place of a text. -/
def start : Pos := ⟨1, 1⟩

/-- The place after the code point `c`, read at `p`. -/
def next (p : Pos) (c : CodePoint) : Pos :=
  if c = .char '\n' then ⟨p.line + 1, 1⟩ else ⟨p.line, p.column + 1⟩

/-- The place after the code points `cs`, read from `p`. -/
def skip (p : Pos) (cs : Str) : Pos := cs.foldl next p

@[simp] theorem skip_nil (p : Pos) : p.skip [] = p := rfl

@[simp] theorem skip_cons (p : Pos) (c : CodePoint) (cs : Str) :
    p.skip (c :: cs) = (p.next c).skip cs := rfl

theorem skip_append (p : Pos) (as bs : Str) : p.skip (as ++ bs) = (p.skip as).skip bs := by
  simp [skip, List.foldl_append]

end Pos

/-- A fault in the source text that the scanner reports and reads past. -/
inductive LexError where
  /-- A code point that begins no token, with its place. -/
  | invalidChar (c : CodePoint) (place : Pos)
  /-- A string without its closing quote, with the line of its opening quote. -/
  | unclosedString (line : Nat)
  /-- A block comment without its closing `##`, with the line of its opening `##`. -/
  | unclosedComment (line : Nat)
  deriving DecidableEq, Repr

/-- The report of a lexical fault. -/
def LexError.message : LexError → Str
  | invalidChar c p =>
    Str.ofString "[ERROR] invalid character '" ++ [c] ++
      Str.ofString ("' at line " ++ toString p.line ++ ", position " ++ toString p.column ++ ".")
  | unclosedString l => "Error: unclosed string starting at line " ++ toString l ++ "."
  | unclosedComment l => "Error: unclosed comment starting at line " ++ toString l ++ "."

/-- What one piece of the source yields: a token, a fault, or nothing (blanks and comments). -/
inductive Piece where
  | token (t : Token)
  | error (e : LexError)
  | skipped
  deriving DecidableEq, Repr

/-- An identifier at its first occurrence. -/
structure Symbol where
  name : Str
  line : Int
  column : Int
  deriving DecidableEq, Repr

/-- The one-line description of a symbol: `Symbol: <name>, Type: IDENTIFIER`. -/
def Symbol.describe (s : Symbol) : Str :=
  Str.ofString "Symbol: " ++ s.name ++ Str.ofString ", Type: IDENTIFIER"

namespace Scanner

/-- The token of kind `k` with lexeme `cs`, read at `p`. -/
def tokenAt (k : TokenKind) (cs : Str) (p : Pos) : Token :=
  ⟨k, cs, p.line, p.column⟩

/-- The kind of a one-character operator or punctuation mark. -/
def singleKind? : Char → Option TokenKind
  | '=' => some .equal | '<' => some .less | '>' => some .greater | '+' => some .plus
  | '-' => some .minus | '*' => some .multiply | '/' => some .divide
  | '(' => some .leftParen | ')' => some .rightParen | ',' => some .comma
  | ';' => some .semicolon | '.' => some .dot
  | _ => none

/-- The kind of a two-character operator whose first character is `c` and whose second is
`=`. -/
def pairKind? : Char → Option TokenKind
  | '=' => some .equal | '!' => some .notEqual | '<' => some .lessEqual
  | '>' => some .greaterEqual
  | _ => none

/-- Whether `c` may continue a word. -/
def isWordTail (c : CodePoint) : Bool := c.satisfies Text.isAlphanumeric || c = .char '_'

/-- Where the first `##` of `cs` begins, if it has one. -/
def closingMark? : Str → Option Nat
  | .char '#' :: .char '#' :: _ => some 0
  | _ :: cs => (closingMark? cs).map (· + 1)
  | [] => none

/-- Whether `c` is a digit. -/
def isDigitCode (c : CodePoint) : Bool := c.satisfies Text.isDigit

/-- The code points after the first digit of a number: digits, then at most one point and the
digits after it. -/
def numberTail (cs : Str) : Str :=
  let whole := cs.takeWhile isDigitCode
  match cs.drop whole.length with
  | .char '.' :: rest => whole ++ .char '.' :: rest.takeWhile isDigitCode
  | _ => whole

/-- The piece that begins with `c`, followed by `cs`, at place `p`: what it yields, and how
many code points it takes after `c`. -/
def piece (c : CodePoint) (cs : Str) (p : Pos) : Piece × Nat :=
  if c.satisfies Text.isBlank then (.skipped, 0)
  else if c = .char '-' && cs.head? == some (.char '-') then
    (.skipped, 1 + ((cs.drop 1).takeWhile (· ≠ .char '\n')).length)
  else if c = .char '#' && cs.head? == some (.char '#') then
    match closingMark? (cs.drop 1) with
    | some i => (.skipped, i + 3)
    | none => (.error (.unclosedComment p.line), cs.length)
  else if c = .char '\'' then
    match cs.findIdx? (· = .char '\'') with
    | some i => (.token (tokenAt .string (c :: cs.take (i + 1)) p), i + 1)
    | none => (.error (.unclosedString p.line), cs.length)
  else if isDigitCode c then
    let tail := numberTail cs
    let kind := if tail.contains (.char '.') then TokenKind.float else .number
    (.token (tokenAt kind (c :: tail) p), tail.length)
  else if c.satisfies Text.isLetter then
    let tail := cs.takeWhile isWordTail
    let kind := ((Str.toString? (c :: tail)).bind TokenKind.ofReserved?).getD .identifier
    (.token (tokenAt kind (c :: tail) p), tail.length)
  else
    match c.char?.bind pairKind?, cs.head? with
    | some k, some (.char '=') => (.token (tokenAt k [c, .char '='] p), 1)
    | _, _ =>
      match c.char?.bind singleKind? with
      | some k => (.token (tokenAt k [c] p), 0)
      | none => (.error (.invalidChar c p), 0)

/-- The pieces of `cs` that yield something, read from place `p`, after the pieces `acc`
already read. -/
def piecesFrom (cs : Str) (p : Pos) (acc : Array Piece) : Array Piece :=
  match cs with
  | [] => acc
  | c :: rest =>
    let (x, extra) := piece c rest p
    let acc := if x = .skipped then acc else acc.push x
    piecesFrom (rest.drop extra) (p.skip (c :: rest.take extra)) acc
termination_by cs.length
decreasing_by
  simp only [List.length_drop, List.length_cons]
  omega

end Scanner

/-- The result of scanning a source text: the pieces that yield a token or a fault. -/
structure Scan where
  pieces : Array Piece
  deriving Repr

namespace Scan

/-- The tokens, in order. -/
def tokens (s : Scan) : List Token :=
  s.pieces.toList.filterMap fun | .token t => some t | _ => none

/-- The lexical faults, in order. -/
def errors (s : Scan) : List LexError :=
  s.pieces.toList.filterMap fun | .error e => some e | _ => none

/-- The identifiers of `ts` not among `seen`, each at its first occurrence, after `acc`. -/
def firstOccurrences (ts : List Token) (seen : List Str) (acc : Array Symbol) :
    Array Symbol :=
  match ts with
  | [] => acc
  | t :: rest =>
    if t.kind = .identifier && !seen.contains t.lexeme then
      firstOccurrences rest (t.lexeme :: seen) (acc.push ⟨t.lexeme, t.line, t.column⟩)
    else firstOccurrences rest seen acc

/-- The identifiers, each once, in the order and at the place of their first occurrence. -/
def symbols (s : Scan) : List Symbol :=
  (firstOccurrences s.tokens [] #[]).toList

end Scan

/-- Scan a source text. -/
def scan (source : Str) : Scan :=
  ⟨Scanner.piecesFrom source Pos.start #[]⟩

example : (scan "SELECT a, b FROM t;").tokens.map (·.kind) =
    [.select, .identifier, .comma, .identifier, .from, .identifier, .semicolon] := by
  decide +kernel

end SqlFront
