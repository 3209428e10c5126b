import SqlFront.Syntax
import SqlFront.Datum
import SqlFront.SqlType
/-!
# Trees

The tree that the analysis checks and the printer draws. A tree is built from a parsed program
(`Program.toNode`) or written by hand; a tree written by hand may hold any datum where the
parser puts a name, a value or a list, may lack the place of any node, and may hold an object of
no node class (`foreign`) or no object at all (`absent`) where a node is expected.

The analysis *annotates* columns and literals with their type; an annotated node keeps its
type in `type`.

A missing `WHERE` clause is `absent`, as is a missing operand of a hand-written operation.
-/

namespace SqlFront

/-- The place of a node, each coordinate as a datum; a coordinate is missing when the node was
written without it. -/
structure Site where
  line : Option Datum := none
  column : Option Datum := none
  deriving Repr, Inhabited

namespace Site

/-- The place of a terminal. -/
def ofPlace (p : Place) : Site := ⟨some p.line, some p.column⟩

/-- Both coordinates, if the node has both. -/
def get? (s : Site) : Option (Datum × Datum) :=
  match s.line, s.column with
  | some l, some c => some (l, c)
  | _, _ => none

end Site

/-- A node of a tree. -/
inductive Node where
  /-- A program: its statements. -/
  | query (statements : List Node) (site : Site)
  /-- `CREATE TABLE`: the table, and the list of column definitions as pairs. -/
  | create (table columns : Datum) (site : Site)
  /-- `INSERT`: the table and the list of values. -/
  | insert (table values : Datum) (site : Site)
  /-- `SELECT`: the list of selected columns, the table and the `WHERE` clause. -/
  | select (items table : Datum) (filter : Node) (site : Site)
  /-- `UPDATE`: the table, the list of assignments as pairs, and the `WHERE` clause. -/
  | update (table assignments : Datum) (filter : Node) (site : Site)
  /-- `DELETE`: the table and the `WHERE` clause. -/
  | delete (table : Datum) (filter : Node) (site : Site)
  /-- An operation, by its operator. -/
  | binary (op : Datum) (lhs rhs : Node) (site : Site)
  /-- A negation. -/
  | negation (operand : Node) (site : Site)
  /-- A column, by name, with the type the analysis found for it. -/
  | column (name : Datum) (site : Site) (type : Option SqlType)
  /-- A literal, by its lexeme, with the type the analysis found for it. -/
  | literal (value : Datum) (site : Site) (type : Option SqlType)
  /-- An object of no node class. -/
  | foreign
  /-- No object. -/
  | absent
  deriving Repr, Inhabited

/-- The tree of a condition. -/
def Cond.toNode : Cond → Node
  | .binary op l r p => .binary op l.toNode r.toNode (.ofPlace p)
  | .not c => .negation c.toNode {}
  | .column n p => .column n (.ofPlace p) none
  | .literal v p => .literal v (.ofPlace p) none

/-- The tree of an optional `WHERE` clause. -/
def Cond.toFilter : Option Cond → Node
  | some c => c.toNode
  | none => .absent

/-- The tree of a statement: column definitions and assignments are pairs. -/
def Stmt.toNode : Stmt → Node
  | .create t cols =>
    match t with
    | some (name, p) => .create name (.list (cols.map fun (n, ty) => .tuple [n, ty])) (.ofPlace p)
    | none => .create .none (.list (cols.map fun (n, ty) => .tuple [n, ty])) {}
  | .insert t vals p => .insert t (.list vals) (.ofPlace p)
  | .select items t f p => .select (.list items) t (Cond.toFilter f) (.ofPlace p)
  | .update t assigns f p =>
    .update t (.list (assigns.map fun (c, v) => .tuple [c, v])) (Cond.toFilter f) (.ofPlace p)
  | .delete t f p => .delete t (Cond.toFilter f) (.ofPlace p)

/-- The tree of a program. -/
def Program.toNode (prog : Program) : Node :=
  .query (prog.map Stmt.toNode) {}

end SqlFront
