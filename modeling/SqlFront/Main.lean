import SqlFront.Console.Commands
/-!
# The command line

`sqlfront SCRIPT ARGS…` runs the command of `SqlFront.Console.Commands` that `SCRIPT` names
(`lexer`, `parser` or `compiler`) with the arguments `ARGS` on the files of this machine, prints
what it printed, and ends with its status.

The commands are pure functions of a `Files` value; this module is the only place that reads
the machine. It reads every argument that names a file before the command runs, so a command
sees exactly the files its arguments could name. An argument that names something that exists
but cannot be read as a text is taken for a directory.
-/

namespace SqlFront.Console

/-- The files that the arguments `args` may name, as they are on this machine. -/
def loadFiles (args : List String) : IO Files := do
  let mut texts : Array (Str × Str) := #[]
  let mut dirs : Array Str := #[]
  for a in args do
    try
      let t ← IO.FS.readFile a
      texts := texts.push (Str.ofString a, Str.ofString t)
    catch e =>
      match e with
      | .noFileOrDirectory .. => pure ()
      | _ => dirs := dirs.push (Str.ofString a)
  return ⟨texts.toList, dirs.toList⟩

/-- Print what a command printed, and give its status. -/
def emit (o : Outcome) : IO UInt32 := do
  IO.print o.stdout.toStringLossy
  IO.eprint o.stderr.toStringLossy
  return o.exitCode.toUInt32

/-- Report a command that stopped on a fault, with status 1. -/
def abort (kind : String) (message : Str) : IO UInt32 := do
  IO.eprintln (kind ++ ": " ++ message.toStringLossy)
  return 1

/-- How to call the program, with status 2. -/
def usage : IO UInt32 := do
  IO.eprintln "usage: sqlfront \x7blexer,parser,compiler\x7d ARGS..."
  return 2

/-- Run the command that `script` names with the arguments `args`. -/
def runScript (script : String) (args : List String) : IO UInt32 := do
  match Command.ofScript? script with
  | none => usage
  | some cmd =>
    match cmd.run (← loadFiles args) (args.map Str.ofString) [] with
    | .ok (.ok o) => emit o
    | .ok (.error f) => abort f.kind f.message
    | .error e => abort e.kind (Str.ofString e.message)

end SqlFront.Console

/-- The program: the first argument names the command, the rest are its arguments. -/
def main (args : List String) : IO UInt32 :=
  match args with
  | script :: rest => SqlFront.Console.runScript script rest
  | [] => SqlFront.Console.usage
