import SqlFront.Datum
import SqlFront.SqlType
/-!
# The catalog

The tables a program has created, in the order of creation, each with its columns and their
declared types in the order of definition. Tables and columns are named by data that can be
keys (`Datum.key?`), and a name is looked up by key: the text `t` and the text `t` are the same
name, and so are the number `1` and the truth value `True`. The first name under which a table
or a column was registered is the one that is kept and printed.

The printed catalog is a table 60 characters wide with one line per column, giving the table
name, the column name and the type in columns of 20, 20 and 10 characters.
-/

namespace SqlFront

/-- A table: its name and its columns with their types, in order. -/
structure Table where
  name : Datum
  columns : List (Datum × SqlType)
  deriving Repr

namespace Table

/-- The type of the column named by the key `k`. -/
def columnType? (t : Table) (k : Key) : Option SqlType :=
  (t.columns.find? fun c => c.1.key? == some k).map (·.2)

/-- Whether the table has a column named by the key `k`. -/
def hasColumn (t : Table) (k : Key) : Bool := (t.columnType? k).isSome

end Table

/-- The tables created so far, in order. -/
structure Catalog where
  tables : List Table := []
  deriving Repr

namespace Catalog

/-- The table named by the key `k`. -/
def find? (c : Catalog) (k : Key) : Option Table :=
  c.tables.find? fun t => t.name.key? == some k

/-- The catalog with a new table of that name and no columns, after the others. -/
def register (c : Catalog) (name : Datum) : Catalog :=
  ⟨c.tables ++ [⟨name, []⟩]⟩

/-- The catalog with a column added to its last table. -/
def addColumn (c : Catalog) (col : Datum) (ty : SqlType) : Catalog :=
  match c.tables.getLast? with
  | some t => ⟨c.tables.dropLast ++ [{ t with columns := t.columns ++ [(col, ty)] }]⟩
  | none => c

/-- The width of the printed catalog. -/
def width : Nat := 60

/-- The line of one column of one table. -/
def row (table column type : Str) : Str :=
  table ++ " " ++ column ++ " " ++ Text.padRight 10 type

/-- The printed catalog. Laying out a name that is nothing fails. -/
def render (c : Catalog) : Except Fault Str := do
  let rows ← c.tables.flatMap (fun t => t.columns.map (t.name, ·)) |>.mapM fun (tn, (cn, ty)) =>
    return row (← tn.padded 20) (← cn.padded 20) ty.name
  return (Str.ofString "\n").intercalate ([Text.rule width '=', "FINAL SYMBOL TABLE",
    Text.rule width '=', Text.row [(20, "TABLE"), (20, "COLUMN"), (10, "TYPE")],
    Text.rule width '-'] ++ rows ++ [Text.rule width '='])

end Catalog

end SqlFront
