import SqlFront.Token.Scanner
import SqlFront.Text.Layout
/-!
# The scan report

The printed account of a scan, 80 characters wide: a table of the tokens (kind, lexeme, line,
column in columns of 20, 25, 10 and 10 characters), then, if there are identifiers, a table of
the identifiers at their first occurrence (name, type, line, column in columns of 25, 20, 10
and 10), then, if there are faults, the numbered faults. Each part opens with its title between
two rules and closes with a rule.
-/

namespace SqlFront

namespace Report

/-- The width of the scan report. -/
def width : Nat := 80

/-- A line of the token table. -/
def tokenRow (kind lexeme line column : Str) : Str :=
  Text.row [(20, kind), (25, lexeme), (10, line), (10, column)]

/-- A line of the identifier table. -/
def symbolRow (name type line column : Str) : Str :=
  Text.row [(25, name), (20, type), (10, line), (10, column)]

/-- The table of tokens. -/
def tokenTable (ts : List Token) : List Str :=
  Text.banner width "TOKENS" ++
    [tokenRow "TYPE" "LEXEME" "LINE" "COLUMN", Text.rule width '-'] ++
    ts.map (fun t => tokenRow t.kind.name t.lexeme (toString t.line) (toString t.column)) ++
    [Text.rule width '=']

/-- The table of identifiers; nothing if there are none. -/
def symbolTable (ss : List Symbol) : List Str :=
  if ss.isEmpty then []
  else
    Text.banner width "SYMBOL TABLE" ++
      [symbolRow "NAME" "TYPE" "LINE" "COLUMN", Text.rule width '-'] ++
      ss.map (fun s => symbolRow s.name "IDENTIFIER" (toString s.line) (toString s.column)) ++
      [Text.rule width '=']

end Report

/-- The report of a scan: its tokens, its identifiers and its faults. -/
def Scan.report (s : Scan) : List Str :=
  Report.tokenTable s.tokens ++ Report.symbolTable s.symbols ++
    Text.numberedSection Report.width "ERRORS" (s.errors.map LexError.message)

end SqlFront
