import SqlFront.Text.Quoted
/-!
# Files

The files a command can read: texts stored under their paths, and paths that are directories.
Reading a directory, or a path that is neither, fails with an error that names the path in its
quoted form.
-/

namespace SqlFront.Console

/-- The file system a command runs against. -/
structure Files where
  /-- The texts of the files, by path. -/
  texts : List (Str × Str) := []
  /-- The paths that are directories. -/
  dirs : List Str := []

/-- Why a file could not be read. -/
inductive ReadError where
  | notFound (path : Str)
  | isDirectory (path : Str)
  deriving DecidableEq, Repr

/-- The report of a failed read, with its error number. -/
def ReadError.message : ReadError → String
  | notFound p => "[Errno 2] No such file or directory: " ++ Text.quote p
  | isDirectory p => "[Errno 21] Is a directory: " ++ Text.quote p

/-- The text of the file at `path`. A path stored as a text is read as one, even if it is also
listed as a directory. -/
def Files.read (fs : Files) (path : Str) : Except ReadError Str :=
  match fs.texts.find? (·.1 == path) with
  | some (_, t) => .ok t
  | none => if fs.dirs.contains path then .error (.isDirectory path) else .error (.notFound path)

end SqlFront.Console
