import SqlFront.Token.Report
import SqlFront.Syntax.Parser
import SqlFront.Node.Render
import SqlFront.Analysis
import SqlFront.Console.Arguments
import SqlFront.Console.Files
/-!
# The commands

Three commands run the stages of the front end on a file:

* `lexer.py FILE` prints the file and its scan report. Without an argument it prints how to
  call it; a file that cannot be read ends it with status 1.
* `parser.py [-h] [-v] path` draws the tree of the parsed file, after the token and identifier
  tables when `-v` is given, and then the numbered lexical and syntax errors.
* `compiler.py [-h] path` runs all stages and stops at the first that reports errors, printing
  them; if none does, it prints that the query is valid, the catalog and the annotated tree.

A command loads the parts of the front end it uses before it reads its arguments; a part that
cannot be loaded ends it at once (`StartError`).
-/

namespace SqlFront.Console

/-- What a command printed, and its exit status. -/
structure Outcome where
  stdout : Str := []
  stderr : Str := []
  exitCode : Nat := 0
  deriving DecidableEq, Repr

/-- A part of the front end that a command loads. -/
inductive Component where
  | scanner
  | parser
  | analyzer
  deriving DecidableEq, Repr

/-- The name under which a part is loaded. -/
def Component.moduleName : Component → String
  | scanner => "lexer"
  | parser => "parser"
  | analyzer => "semantic_analyzer"

/-- The part loaded under the name `s`. -/
def Component.ofName? : String → Option Component
  | "lexer" => some scanner
  | "parser" => some parser
  | "semantic_analyzer" => some analyzer
  | _ => none

/-- Why a command could not start. -/
inductive StartError where
  /-- A part it loads is unavailable. -/
  | missing (c : Component)
  /-- The scanner, which the parser loads, is unavailable. -/
  | noScanner
  deriving DecidableEq, Repr

/-- The class of a start error. -/
def StartError.kind : StartError → String
  | missing _ => "ModuleNotFoundError"
  | noScanner => "ImportError"

/-- The message of a start error. -/
def StartError.message : StartError → String
  | missing c => "import of " ++ c.moduleName ++ " halted; None in sys.modules"
  | noScanner => "Could not import LexicalAnalyzer from lexer.py: import of lexer halted; None in sys.modules"

/-- A command. -/
inductive Command where
  | scan
  | parse
  | compile
  deriving DecidableEq, Repr

namespace Command

/-- The name of the script that runs the command. -/
def script : Command → String
  | scan => "lexer"
  | parse => "parser"
  | compile => "compiler"

/-- The command run by the script `s`. -/
def ofScript? : String → Option Command
  | "lexer" => some scan
  | "parser" => some parse
  | "compiler" => some compile
  | _ => none

/-- Why the command cannot start when the parts `unavailable` cannot be loaded. -/
def startError? (cmd : Command) (unavailable : List Component) : Option StartError :=
  match cmd with
  | scan => none
  | parse => if unavailable.contains .scanner then some .noScanner else none
  | compile =>
    ([Component.scanner, .parser, .analyzer].find? unavailable.contains).map .missing

end Command

/-- The arguments of `parser.py`. -/
def parseSignature : Signature :=
  ⟨"parser.py", "Recursive-descent parser for SQL-like language",
    [helpSwitch, ⟨'v', "verbose", "Print tokens and symbol table", false⟩], "path",
    "Input SQL file path"⟩

/-- The arguments of `compiler.py`. -/
def compileSignature : Signature :=
  ⟨"compiler.py", "Compiler for SQL-like language (Phase 1-3)", [helpSwitch], "path",
    "Input SQL file path"⟩

/-- The lines of a parsed program's tree. A program's tree always has a drawing. -/
def programLines (prog : Program) : List Str :=
  match prog.toNode.render with
  | .ok ls => ls
  | .error _ => []

/-- What `parser.py` prints for a source text. -/
def parseReport (src : Str) (verbose : Bool) : List Str :=
  let s := scan src
  let p := parseTokens s.tokens
  (if verbose then Report.tokenTable s.tokens ++ Report.symbolTable s.symbols else []) ++
    programLines p.program ++
    Text.numberedSection Report.width "LEXER ERRORS" (s.errors.map LexError.message) ++
    Text.numberedSection Report.width "PARSER ERRORS" (p.errors.map SyntaxError.message)

/-- The block of errors of the stage that reported them first. -/
def errorBlock (title : String) (messages : List Str) : List Str :=
  Text.banner Report.width title ++ messages

/-- What `compiler.py` prints for a source text. Printing the catalog fails for a table or a
column without a name. -/
def compileReport (src : Str) : Except Fault (List Str) := do
  let s := scan src
  if !s.errors.isEmpty then return errorBlock "LEXICAL ERRORS" (s.errors.map LexError.message)
  let p := parseTokens s.tokens
  if !p.errors.isEmpty then return errorBlock "SYNTAX ERRORS" (p.errors.map SyntaxError.message)
  let (st, tree) := analyze p.program.toNode
  if !st.errors.isEmpty then
    return errorBlock "SEMANTIC ERRORS" (st.errors.toList.map SemanticError.message)
  let catalog ← st.catalog.render
  let drawing ← tree.render
  return ([Str.ofString "Semantic Analysis Successful. Query is valid.", [], catalog, [],
    Text.rule 60 '=', "ANNOTATED PARSE TREE", Text.rule 60 '='] : List Str) ++ drawing ++
    [Text.rule 60 '=']

/-- The line printed when the input file cannot be read. -/
def readFailure (e : ReadError) : String := "Error reading file: " ++ e.message

/-- `lexer.py` with the arguments `args`. -/
def scanCommand (fs : Files) (args : List Str) : Outcome :=
  match args with
  | [] => { stdout := Text.unlines ["Usage: python lexer.py <input_file>"] }
  | path :: _ =>
    match fs.read path with
    | .error (.notFound _) =>
      { stdout := Text.unlines ["Error: File '" ++ path ++ "' not found."], exitCode := 1 }
    | .error e => { stdout := Text.unlines [readFailure e], exitCode := 1 }
    | .ok src =>
      { stdout := Text.unlines (([Str.ofString "Analyzing file: " ++ path, Text.rule 60 '=',
          "Source Code:", Text.rule 60 '=', src, []] : List Str) ++ (scan src).report) }

/-- The outcome of reading the arguments of a command, running `body` on the path and the
switches given. -/
def withArguments (sig : Signature) (args : List Str)
    (body : Str → List String → Except Fault Outcome) : Except Fault Outcome :=
  match sig.read args with
  | .help => .ok { stdout := Text.unlines sig.helpLines }
  | .error m => .ok { stderr := Text.unlines (sig.errorLines m), exitCode := 2 }
  | .run path switches => body path switches

/-- `parser.py` with the arguments `args`. -/
def parseCommand (fs : Files) (args : List Str) : Except Fault Outcome :=
  withArguments parseSignature args fun path switches =>
    match fs.read path with
    | .error e => .ok { stdout := Text.unlines [readFailure e] }
    | .ok src => .ok { stdout := Text.unlines (parseReport src (switches.contains "verbose")) }

/-- `compiler.py` with the arguments `args`. -/
def compileCommand (fs : Files) (args : List Str) : Except Fault Outcome :=
  withArguments compileSignature args fun path _ =>
    match fs.read path with
    | .error e => .ok { stdout := Text.unlines [readFailure e] }
    | .ok src => return { stdout := Text.unlines (← compileReport src) }

/-- Run a command with the arguments `args` against the files `fs`, when the parts
`unavailable` cannot be loaded. -/
def Command.run (cmd : Command) (fs : Files) (args : List Str) (unavailable : List Component) :
    Except StartError (Except Fault Outcome) :=
  match cmd.startError? unavailable with
  | some e => .error e
  | none =>
    match cmd with
    | .scan => .ok (.ok (scanCommand fs args))
    | .parse => .ok (parseCommand fs args)
    | .compile => .ok (compileCommand fs args)

end SqlFront.Console
