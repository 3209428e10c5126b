import SqlFront.Token.Scanner
import SqlFront.Syntax.Parser
import SqlFront.Analysis
/-!
# The pipeline

A source text goes through the three stages of the front end in turn: the scanner makes its
tokens, the parser its program, and the analysis checks the program's tree against a catalog
and annotates it. Each stage runs whatever the stage before it reported: the parser reads the
tokens of a text with lexical errors, and the analysis reads the program of a text with
syntax errors.

The analysis may continue from an earlier state, so that a sequence of texts shares one catalog
and one list of errors, as the statements of one text do.
-/

namespace SqlFront

/-- What the stages of the front end made of one source text. -/
structure Run where
  /-- The scan: tokens, identifiers and lexical errors. -/
  lexed : Scan
  /-- The program and the syntax errors. -/
  parsed : Parse
  /-- The analyzer's state after the program: the catalog and all semantic errors so far. -/
  analyzer : Analyzer
  /-- The tree of the program, annotated by the analysis. -/
  tree : Node

/-- Run every stage on the text `src`, the analysis starting from the state `st`. -/
def Run.of (src : Str) (st : Analyzer := {}) : Run :=
  let s := scan src
  let p := parseTokens s.tokens
  let (st', tree) := analyze p.program.toNode st
  ⟨s, p, st', tree⟩

/-- Run every stage on each text of `srcs` in turn, each analysis continuing from the state the
one before it left, the first from `st`. -/
def Run.sequence (st : Analyzer) : List Str → List Run
  | [] => []
  | src :: rest =>
    let r := Run.of src st
    r :: Run.sequence r.analyzer rest

theorem Run.length_sequence (st : Analyzer) (srcs : List Str) :
    (Run.sequence st srcs).length = srcs.length := by
  induction srcs generalizing st with
  | nil => rfl
  | cons src rest ih => simp [Run.sequence, ih]

end SqlFront
