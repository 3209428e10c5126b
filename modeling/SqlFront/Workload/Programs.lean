/-!
# Generated programs

Three families of source texts, each indexed by a size `n`, for exercising the front end at
scale. A negative size counts as zero.

* `validProgram n`: a header of comments, then for each table `i < n` six statements that
  create table `Tbl{i}`, insert a row, select with a nested condition, select all, update and
  delete. They parse without errors; two statements per table mix types in a condition.
* `lexerStress n`: for each `i < n`, comments, a long condition, a number with two points, a
  string over two lines and every operator; then an invalid character, an unterminated string
  and an unclosed comment.
* `errorProgram n`: four faulty `CREATE` statements, then for each `i < n` seventeen
  statements with semantic and syntax errors of every kind.
-/

namespace SqlFront.Workload

/-- The text of a number. -/
def num (i : Nat) : String := toString i

/-- The header of a valid program. -/
def validHeader : String :=
  "-- header single line comment\n## a multi line\ncomment block ##\n"

/-- The six statements of table `i` of a valid program. -/
def validBlock (i : Nat) : String :=
  let t := "Tbl" ++ num i
  "CREATE TABLE " ++ t ++ " (id INT, name TEXT, balance FLOAT, flag INT);\n" ++
  "INSERT INTO " ++ t ++ " VALUES (" ++ num i ++ ", 'row" ++ num i ++ "', " ++ num (i + 1) ++
    ", 1);\n" ++
  "SELECT id, name FROM " ++ t ++ " WHERE id >= " ++ num i ++ " AND NOT (balance <= " ++
    num i ++ ".5 OR flag != 0);\n" ++
  "SELECT * FROM " ++ t ++ " WHERE name == 'row" ++ num i ++ "';\n" ++
  "UPDATE " ++ t ++ " SET balance = " ++ num i ++ ".25, flag = 0 WHERE id < " ++ num i ++
    " + 1 AND id > " ++ num i ++ " - 1;\n" ++
  "DELETE FROM " ++ t ++ " WHERE (id * 2) / 2 == id AND balance >= 0.0;\n"

/-- A valid program with `n` tables. -/
def validProgram (n : Int) : String :=
  validHeader ++ String.join ((List.range n.toNat).map validBlock)

/-- The lines of block `i` of the scanner's stress text. -/
def stressBlock (i : Nat) : String :=
  "-- single line comment " ++ num i ++ "\n## multi\nline ##\n" ++
  "SELECT col" ++ num i ++ ", other FROM t" ++ num i ++ " WHERE a" ++ num i ++ " == " ++
    num i ++ " AND b" ++ num i ++ " != " ++ num i ++
    ".5 OR c <= 1 AND d >= 2 AND e < 3 AND f > 4;\n" ++
  "UPDATE t" ++ num i ++ " SET x = " ++ num i ++ ".1.2 + 'multi\nline str';\n" ++
  "(+-*/=<>,.;)\n"

/-- The lines at the end of the scanner's stress text, each meant to provoke one fault: an
invalid character, an unterminated string and an unclosed comment. -/
def stressFaults : List String := ["@", "'unterminated", "## never closed"]

/-- The end of the scanner's stress text: its fault lines. -/
def stressTail : String := String.join (stressFaults.map (· ++ "\n"))

/-- The scanner's stress text with `n` blocks. -/
def lexerStress (n : Int) : String :=
  String.join ((List.range n.toNat).map stressBlock) ++ stressTail

/-- The faulty statements at the head of an erroneous program. -/
def errorHeader : String :=
  "CREATE TABLE Good (a INT, b TEXT, c FLOAT);\nCREATE TABLE Good (a INT);\n" ++
  "CREATE TABLE Dup (x INT, x INT);\nCREATE TABLE Bad (x thing);\n"

/-- Block `i` of an erroneous program. -/
def errorBlock (i : Nat) : String :=
  "INSERT INTO Missing" ++ num i ++ " VALUES (1);\n" ++
  "INSERT INTO Good VALUES (1, 'x');\n" ++
  "INSERT INTO Good VALUES ('s', 'x', 1.0);\n" ++
  "INSERT INTO Good VALUES (1, 'x', 2);\n" ++
  "SELECT nosuch FROM Good;\n" ++
  "SELECT a FROM Good WHERE a == 'str';\n" ++
  "UPDATE Good SET a = 'str' WHERE a == 1;\n" ++
  "DELETE FROM Good WHERE nosuch == 1;\n" ++
  "INSERT INTO Good VALUES (1, oops);\n" ++
  "INSERT INTO Good VALUES (oops);\n" ++
  "garbage tokens here;\n" ++
  "SELECT FROM;\n" ++
  "SELECT a FROM Good junk more;\n" ++
  "CREATE TABLE T" ++ num i ++ " ();\n" ++
  "UPDATE Good SET a = oops;\n" ++
  "SELECT a FROM Good WHERE == 1;\n" ++
  "SELECT a FROM Good WHERE WHERE;\n"

/-- An erroneous program with `n` blocks. -/
def errorProgram (n : Int) : String :=
  errorHeader ++ String.join ((List.range n.toNat).map errorBlock)

/-- A family of generated programs. -/
inductive Generator where
  | valid
  | stress
  | erroneous
  deriving DecidableEq, Repr

namespace Generator

/-- The name under which a family is asked for. -/
def name : Generator → String
  | valid => "valid_program"
  | stress => "lexer_stress"
  | erroneous => "error_program"

/-- The family named `s`. -/
def ofName? (s : String) : Option Generator :=
  [valid, stress, erroneous].find? (·.name == s)

/-- A family is found under its own name. -/
theorem ofName?_name (g : Generator) : ofName? g.name = some g := by
  cases g <;> rfl

/-- The program of the family with size `n`. -/
def source : Generator → Int → String
  | valid, n => validProgram n
  | stress, n => lexerStress n
  | erroneous, n => errorProgram n

end Generator

end SqlFront.Workload
