import SqlFront.Workload.Programs
import SqlFront.Pipeline
import SqlFront.Console.Commands
/-!
# Workloads

Eight workloads run the front end on the generated programs of `SqlFront.Workload.Programs` and
sum up what it produced, as a datum: counts, names and the texts of a few entries.

| workload | program | result |
|---|---|---|
| `bench_lexer_tokenize` | `lexerStress n` | tokens, identifiers, planted faults, first token and identifier |
| `bench_parser_valid` | `validProgram n` | statements, syntax errors |
| `bench_parser_recovery` | `errorProgram n` | statements, syntax errors, the kind at the end, the line of a bare node |
| `bench_semantic_valid` | `validProgram n` | tables, semantic errors, the type of a bare name |
| `bench_semantic_errors` | `errorProgram n` | semantic errors, lexical errors, line breaks of the catalog |
| `bench_pprint_ast` | `validProgram n` | characters of the annotated drawing with a stray entry |
| `bench_full_pipeline` | `validProgram n` | tokens, statements, tables, semantic errors |
| `bench_cli_entrypoints` | `validProgram n` | characters printed by the commands, also on fixed files |

## Calling a workload

A workload takes one argument, its size, by name (`n_lines`, `n_tables` or `n_stmts`); without
it the size has a default. An argument of another name is refused before anything runs, and a
size that is neither a number nor a truth value is a fault (`Datum.asInt`).

Asking for the first token of a stress text with no blocks is a fault: that text has no token.
-/

namespace SqlFront.Workload

open Console

/-- A bare node placed at line 1, column 2. -/
def bareSite : Site := Site.ofPlace ⟨.int 1, .int 2⟩

/-- The path of a file that does not exist, in a fresh temporary directory. -/
def missingPath : String := "/tmp/tmpXXXXXXXX/does_not_exist.sql"

/-- The files the commands read beside the generated program and the missing file: a clean
program, and one each with a lexical, a syntax and a semantic error. -/
def fixedSources : List Str :=
  ["CREATE TABLE t (a INT, b INT);\nSELECT a FROM t WHERE a = 1;\n",
    "SELECT @ FROM t;\n'open",
    "garbage tokens;\nSELECT FROM;\n",
    "SELECT x FROM NoSuchTable;\n"]

/-- What the compiler and the parser, without its tables, print on the fixed files, one file
after the other. -/
def fixedOutput : Except Fault Str :=
  fixedSources.foldlM (fun out src => do
    let compiled ← compileReport src
    return out ++ Text.unlines compiled ++ Text.unlines (parseReport src false)) []

/-- A number as a datum. -/
def count (n : Nat) : Datum := .int n

/-- A workload. -/
inductive Bench where
  | lexerTokenize
  | parserValid
  | parserRecovery
  | semanticValid
  | semanticErrors
  | pprintAst
  | fullPipeline
  | cliEntrypoints
  deriving DecidableEq, Repr

namespace Bench

/-- All workloads. -/
def all : List Bench :=
  [lexerTokenize, parserValid, parserRecovery, semanticValid, semanticErrors, pprintAst,
    fullPipeline, cliEntrypoints]

/-- The name under which a workload is called. -/
def name : Bench → String
  | lexerTokenize => "bench_lexer_tokenize"
  | parserValid => "bench_parser_valid"
  | parserRecovery => "bench_parser_recovery"
  | semanticValid => "bench_semantic_valid"
  | semanticErrors => "bench_semantic_errors"
  | pprintAst => "bench_pprint_ast"
  | fullPipeline => "bench_full_pipeline"
  | cliEntrypoints => "bench_cli_entrypoints"

/-- The workload called `s`. -/
def ofName? (s : String) : Option Bench := all.find? (·.name == s)

theorem mem_all (b : Bench) : b ∈ all := by
  cases b <;> simp [all]

/-- A workload is found under its own name. -/
theorem ofName?_name (b : Bench) : ofName? b.name = some b := by
  cases b <;> rfl

/-- The name of the size argument. -/
def parameter : Bench → String
  | lexerTokenize => "n_lines"
  | parserRecovery | semanticErrors => "n_stmts"
  | parserValid | semanticValid | pprintAst | fullPipeline | cliEntrypoints => "n_tables"

/-- The size when none is given. -/
def defaultSize : Bench → Int
  | lexerTokenize => 200
  | parserValid => 60
  | parserRecovery => 60
  | semanticValid => 120
  | semanticErrors => 120
  | pprintAst => 40
  | fullPipeline => 30
  | cliEntrypoints => 20

/-- What the workload produces for size `n`. -/
def run : Bench → Int → Except Fault Datum
  | lexerTokenize, n => do
    let s := scan (lexerStress n)
    let firstToken ← (Datum.list (s.tokens.map fun t => .str t.describe)).index 0
    let firstSymbol ← (Datum.list (s.symbols.map fun y => .str y.describe)).index 0
    return .list [count s.tokens.length, count s.symbols.length, count stressFaults.length,
      .list [firstToken, firstSymbol]]
  | parserValid, n => do
    let p := parseTokens (scan (validProgram n)).tokens
    return .list [count p.program.length, count p.errors.length]
  | parserRecovery, n => do
    let p := parseTokens (scan (errorProgram n)).tokens
    return .list [count p.program.length, count p.errors.length,
      (Parser.current []).kind, bareSite.line.getD .none]
  | semanticValid, n => do
    let r := Run.of (validProgram n)
    return .list [count r.analyzer.catalog.tables.length, count r.analyzer.errors.size,
      .str (SqlType.ofLiteral "name").name]
  | semanticErrors, n => do
    let r := Run.of (errorProgram n)
    let catalog ← r.analyzer.catalog.render
    return .list [count r.analyzer.errors.size, count r.lexed.errors.length,
      count (catalog.count (.char '\n'))]
  | pprintAst, n => do
    let drawing ← (Run.of (validProgram n)).tree.render
    let stray ← Render.lines "    " true .foreign
    return count (Text.unlines (drawing ++ stray)).length
  | fullPipeline, n => do
    let r := Run.of (validProgram n)
    return .list [count r.lexed.tokens.length, count r.parsed.program.length,
      count r.analyzer.catalog.tables.length, count r.analyzer.errors.size]
  | cliEntrypoints, n => do
    let src := validProgram n
    let compiled ← compileReport src
    let fixed ← fixedOutput
    let missing := readFailure (.notFound missingPath)
    let printed := Text.unlines compiled ++ Text.unlines (parseReport src true) ++ fixed ++
      Text.unlines [missing, missing]
    return count printed.length

/-- Call the workload with the named arguments `args`. -/
def call (b : Bench) (args : List (Str × Datum)) : Except Fault Datum := do
  if let some (k, _) := args.find? (·.1 != Str.ofString b.parameter) then
    throw (.unexpectedKeyword b.name k)
  let size ← match args.lookup (Str.ofString b.parameter) with
    | some d => d.asInt
    | none => pure b.defaultSize
  b.run size

end Bench

end SqlFront.Workload
