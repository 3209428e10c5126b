import SqlFront.Text.Quoted
import SqlFront.Text.Digit
import SqlFront.Text.Layout
/-!
# Command-line arguments

The commands take one path and some switches (options without a value), and read their
arguments by the following rules.

## Classifying the arguments

Each argument is a *positional*, an *option*, or the separator `--`; after the first `--`
every argument is positional, and so is the empty argument, one that does not begin with `-`,
and `-` alone. An argument that begins with `-` is an option when it is an option string of
the command (`-h`, `--help`, …) or has the form `string=value` for one; otherwise:

* beginning with `--`, it names every long option of which it (up to an `=`) is a prefix;
* beginning with one `-`, it names the short option given by its first two characters, with
  the rest as the *attached text*, and every option string of which it is a prefix;
* naming two options is an error (*ambiguous option*), naming one makes it that option;
* naming none, it is positional if it looks like a negative number or holds a space, and an
  *unknown option* otherwise.

## Reading them

Arguments are read from left to right. The path takes the first positional that is not
separated from the place where reading stands by an option, together with a separator before
or after it. Unknown options and positionals that no path takes are left over.

A switch takes no value, so the text given with it (after `=`, or attached to a short switch)
is read as further short switches: `-vh` and `-v=h` are `-v -h`. The switches of one argument
act only once all of its text is read; text that is not a switch (a character that names none,
or any text after a long switch or an empty one after `=`) is an error that names the last
switch read and the whole text from that point on (*ignored explicit argument*).

`-h` prints the help and ends the command at once. Otherwise, when all is read, a missing path
is an error, and then anything left over is an error (*unrecognized arguments*).
-/

namespace SqlFront.Console

/-- A switch: an option without a value. -/
structure Switch where
  short : Char
  long : String
  help : String
  /-- Whether the switch asks for the help text. -/
  isHelp : Bool := false
  deriving DecidableEq, Repr

/-- The name of a switch in messages: its two option strings. -/
def Switch.name (s : Switch) : String := "-" ++ String.singleton s.short ++ "/--" ++ s.long

/-- The arguments a command accepts: its switches, in order, and one path. -/
structure Signature where
  prog : String
  description : String
  switches : List Switch
  path : String
  pathHelp : String

/-- The switch that asks for help. -/
def helpSwitch : Switch := ⟨'h', "help", "show this help message and exit", true⟩

/-- What a reading of the arguments comes to. -/
inductive Reading where
  /-- The path, and the long names of the switches given. -/
  | run (path : Str) (switches : List String)
  /-- The help was asked for. -/
  | help
  /-- The arguments are wrong. -/
  | error (message : Str)
  deriving DecidableEq, Repr

/-- An option as it occurs in an argument: the switch (none if unknown), the option string,
and the text given with it (after `=` or attached). -/
structure Occurrence where
  switch : Option Switch
  optionString : Str
  attached : Option Str
  deriving DecidableEq, Repr

/-- A classified argument. -/
inductive Item where
  | separator
  | positional (s : Str)
  | option (o : Occurrence) (raw : Str)
  deriving DecidableEq, Repr

/-- The text `s` with a `=` between each two. -/
def joinAtEquals (s : List Str) : Str := [.char '='].intercalate s

namespace Signature

/-- The option strings of the command, each with its switch, in order. -/
def optionStrings (sig : Signature) : List (Str × Switch) :=
  sig.switches.flatMap fun s =>
    [([.char '-', .char s.short], s), (Str.ofString ("--" ++ s.long), s)]

/-- The switch with the option string `o`. -/
def lookup (sig : Signature) (o : Str) : Option Switch :=
  (sig.optionStrings.find? (·.1 == o)).map (·.2)

/-- Whether `s` looks like a negative number: `-` and digits, with at most one point, and a
digit after the point if there is one; one line break may end it. -/
def looksNegative (s : Str) : Bool :=
  let cs := if s.getLast? = some (.char '\n') then s.dropLast else s
  let isDecimal (c : CodePoint) := c.satisfies Text.isDecimal
  match cs with
  | .char '-' :: rest =>
    let whole := rest.takeWhile isDecimal
    match rest.drop whole.length with
    | [] => !whole.isEmpty
    | .char '.' :: frac => !frac.isEmpty && frac.all isDecimal
    | _ => false
  | _ => false

/-- The options that an argument beginning with `-` names by prefix. -/
def candidates (sig : Signature) (arg : Str) : List Occurrence :=
  if (Str.ofString "--").isPrefixOf arg then
    let (pre, val) := match arg.splitOn (.char '=') with
      | p :: rest@(_ :: _) => (p, some (joinAtEquals rest))
      | _ => (arg, none)
    sig.optionStrings.filterMap fun (o, s) =>
      if pre.isPrefixOf o then some ⟨some s, o, val⟩ else none
  else
    sig.optionStrings.filterMap fun (o, s) =>
      if o == arg.take 2 then some ⟨some s, o, some (arg.drop 2)⟩
      else if arg.isPrefixOf o then some ⟨some s, o, none⟩
      else none

/-- The class of one argument that is not after a separator. -/
def classify (sig : Signature) (arg : Str) : Except Str Item :=
  if arg.head? != some (.char '-') then .ok (.positional arg)
  else match sig.lookup arg with
  | some s => .ok (.option ⟨some s, arg, none⟩ arg)
  | none =>
    if arg.length == 1 then .ok (.positional arg)
    else
      let withValue := match arg.splitOn (.char '=') with
        | p :: rest@(_ :: _) =>
          (sig.lookup p).map fun s => (⟨some s, p, some (joinAtEquals rest)⟩ : Occurrence)
        | _ => none
      match withValue with
      | some o => .ok (.option o arg)
      | none =>
        match sig.candidates arg with
        | [o] => .ok (.option o arg)
        | [] =>
          if looksNegative arg || arg.contains (.char ' ') then .ok (.positional arg)
          else .ok (.option ⟨none, arg, none⟩ arg)
        | os => .error (Str.ofString "ambiguous option: " ++ arg ++ Str.ofString " could match " ++
            (Str.ofString ", ").intercalate (os.map (·.optionString)))

/-- The classes of the arguments: after the first `--`, all are positional. -/
def items (sig : Signature) : List Str → Except Str (List Item)
  | [] => .ok []
  | a :: rest =>
    if a == Str.ofString "--" then .ok (.separator :: rest.map .positional)
    else do
      let i ← sig.classify a
      return i :: (← sig.items rest)

end Signature

/-- The raw text of an item, as it is left over. -/
def Item.raw : Item → Str
  | .separator => Str.ofString "--"
  | .positional s => s
  | .option _ r => r

/-- The state of a reading: the path if taken, the switches given, what is left over. -/
structure ReadState where
  path : Option Str := none
  switches : List String := []
  leftover : List Str := []

/-- The path from the start of `items`, if it is not yet taken and a positional stands
there, possibly after a separator: the path and the items after it, including one separator
right after it. -/
def takePath (st : ReadState) (items : List Item) : Option (Str × List Item) :=
  if st.path.isSome then none
  else
    let afterSep := match items with
      | .separator :: r => r
      | r => r
    match afterSep with
    | .positional s :: r =>
      some (s, match r with
        | .separator :: r' => r'
        | r' => r')
    | _ => none

/-- The switches named by the switch `s`, given as the option string `os`, and the text `e`
given with it, in order; or the error of text that names no switch. -/
def chainOf (sig : Signature) (s : Switch) (os : Str) : Str → Except Str (List Switch)
  | [] => .error (ignored s [])
  | c :: rest =>
    let next : Str := [.char '-', c]
    match os[1]? == some (CodePoint.char '-'), sig.lookup next with
    | true, _ | _, none => .error (ignored s (c :: rest))
    | false, some s' =>
      match rest with
      | [] => .ok [s, s']
      | _ => (chainOf sig s' next rest).map (s :: ·)
where
  /-- The error of text `e` given with the switch `s`. -/
  ignored (s : Switch) (e : Str) : Str :=
    Str.ofString ("argument " ++ s.name ++ ": ignored explicit argument " ++ Text.quote e)

/-- The switches named by an option occurrence, in order; or an error. -/
def switchesOf (sig : Signature) (s : Switch) (optionString : Str) :
    Option Str → Except Str (List Switch)
  | none => .ok [s]
  | some e => chainOf sig s optionString e

/-- What reading from `items` comes to, from the state `st`. -/
def readFrom (sig : Signature) (st : ReadState) (items : List Item) : Reading :=
  match _h : items with
  | [] => finish st
  | .option o raw :: rest =>
    match o.switch with
    | none => readFrom sig { st with leftover := st.leftover ++ [raw] } rest
    | some s =>
      match switchesOf sig s o.optionString o.attached with
      | .error m => .error m
      | .ok ss =>
        if ss.any (·.isHelp) then .help
        else readFrom sig { st with switches := st.switches ++ ss.map (·.long) } rest
  | _ :: _ =>
    match takePath st items with
    | some (p, rest') =>
      if rest'.length < items.length then readFrom sig { st with path := some p } rest'
      else finish st
    | none =>
      -- what no path takes, up to the next option, is left over
      let skipped := items.takeWhile fun | .option _ _ => false | _ => true
      let after := items.dropWhile fun | .option _ _ => false | _ => true
      if after.length < items.length then
        readFrom sig { st with leftover := st.leftover ++ skipped.map Item.raw } after
      else finish st
termination_by items.length
decreasing_by all_goals (subst _h; simp_all; try omega)
where
  /-- The end of the reading: the path must have been given, and nothing be left over. -/
  finish (st : ReadState) : Reading :=
    match st.path with
    | none => .error (Str.ofString ("the following arguments are required: " ++ sig.path))
    | some p =>
      if st.leftover.isEmpty then .run p st.switches
      else .error (Str.ofString "unrecognized arguments: " ++ [.char ' '].intercalate st.leftover)

/-- Read the arguments of a command. -/
def Signature.read (sig : Signature) (args : List Str) : Reading :=
  match sig.items args with
  | .error m => .error m
  | .ok items => readFrom sig {} items

/-- The usage line of a command. -/
def Signature.usage (sig : Signature) : String :=
  "usage: " ++ sig.prog ++ " " ++
    " ".intercalate (sig.switches.map fun s => "[-" ++ String.singleton s.short ++ "]") ++
    " " ++ sig.path

/-- The help text of a command, one line per entry. Each entry is indented by two, and its
help starts two columns after the longest entry. -/
def Signature.helpLines (sig : Signature) : List Str :=
  let entry (s : Switch) := "-" ++ String.singleton s.short ++ ", --" ++ s.long
  let width := (sig.switches.map fun s => (entry s).length).foldl max sig.path.length
  let line (e h : String) : Str := Str.ofString "  " ++ Text.padRight width e ++ "  " ++ h
  ([sig.usage, "", sig.description, "", "positional arguments:", line sig.path sig.pathHelp, "",
    "options:"] : List Str) ++ sig.switches.map fun s => line (entry s) s.help

/-- The lines of the report of wrong arguments. -/
def Signature.errorLines (sig : Signature) (message : Str) : List Str :=
  [sig.usage, Str.ofString (sig.prog ++ ": error: ") ++ message]

end SqlFront.Console
