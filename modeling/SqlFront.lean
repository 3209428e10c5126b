import SqlFront.Str
import SqlFront.Text.CodeRange
import SqlFront.Text.Blank
import SqlFront.Text.Letter
import SqlFront.Text.Digit
import SqlFront.Text.Numeric
import SqlFront.Text.Printable
import SqlFront.Text.Quoted
import SqlFront.Text.Layout
import SqlFront.Text.Numeral
import SqlFront.Text.Shortest
import SqlFront.Text.Nearest
import SqlFront.SqlType
import SqlFront.Token
import SqlFront.Token.Scanner
import SqlFront.Token.Report
import SqlFront.Token.Lexer
import SqlFront.Datum
import SqlFront.Datum.Json
import SqlFront.Syntax
import SqlFront.Syntax.Parser
import SqlFront.Node
import SqlFront.Node.Written
import SqlFront.Node.Render
import SqlFront.Catalog
import SqlFront.Analysis
import SqlFront.Console.Arguments
import SqlFront.Console.Files
import SqlFront.Console.Commands
import SqlFront.Workload.Programs
import SqlFront.Pipeline
import SqlFront.Workload.Bench
import SqlFront.Main
import SqlFront.Proofs.Grammar
import SqlFront.Proofs.Derivation
import SqlFront.Proofs.ParseSteps
import SqlFront.Proofs.Soundness
import SqlFront.Proofs.Completeness
import SqlFront.Proofs.Acceptance
import SqlFront.Proofs.Segmentation
import SqlFront.Proofs.Recovery
import SqlFront.Proofs.Lexemes
import SqlFront.Proofs.Settling
import SqlFront.Proofs.Sequencing
import SqlFront.Proofs.Rescanning
import SqlFront.Proofs.Literals
import SqlFront.Proofs.Growth
import SqlFront.Proofs.Reporting
import SqlFront.Proofs.Registration
import SqlFront.Proofs.Conditions
import SqlFront.Proofs.Progress
import SqlFront.Proofs.Unclosed
import SqlFront.Proofs.Drawing
import SqlFront.Proofs.Evaluation
import SqlFront.Proofs.CleanParse
import SqlFront.Proofs.Annotation
import SqlFront.Proofs.Tokenizing
import SqlFront.Proofs.Identifiers
