import SqlFront.Node
/-!
# Drawing a tree

A tree is drawn one line per entry, in preorder. An entry is a node or a line of text that a
node lists under itself: the column definitions of a `CREATE`, the values of an `INSERT`, the
selected columns of a `SELECT`, the assignments of an `UPDATE`. The line of an entry is the
prefix of its parent's children, the connector `└── ` for a last child or `├── ` for another,
and the entry's label; the prefix of its own children adds `    ` below a last child and `│   `
below another. The root is a last child with an empty prefix.

Labels: `Query`, `Create Table: t` with entries `Column: name type`, `Insert into: t` with
entries `Value: v`, `Select from: t` with entries `Column: c` and then the `WHERE` condition,
`Update: t` with entries `Set: c = v` and then the condition, `Delete from: t` and its
condition, `BinaryOp: op` with both operands, `NOT` with its operand, `ColumnRef: name` and
`Literal: value`. An annotated node adds ` <Type: T>`; anything else is `Unknown: ` and the
name of its class. Names and values are in their written form.

Drawing a tree written by hand can fail, when an entry's data has the wrong shape: the
definitions of a `CREATE` must have two numbered items, and the assignments of an `UPDATE`
must be pairs.
-/

namespace SqlFront

namespace Render

/-- The connector before an entry. -/
def connector (last : Bool) : String := if last then "└── " else "├── "

/-- What an entry adds to the prefix of its children. -/
def indent (last : Bool) : String := if last then "    " else "│   "

/-- The lines of text entries under the prefix `pre`; the last of them is a last child only
when nothing follows them. -/
def textLines (pre : Str) (followed : Bool) : List Str → List Str
  | [] => []
  | [s] => [pre ++ connector (!followed) ++ s]
  | s :: rest => (pre ++ connector false ++ s) :: textLines pre followed rest

/-- The annotation of a node's type, if it has one. -/
def annotation : Option SqlType → String
  | some t => " <Type: " ++ t.name ++ ">"
  | none => ""

/-- The entries of a `CREATE`: `Column: name type` for each definition. -/
def columnEntries (cols : Datum) : Except Fault (List Str) := do
  (← cols.items).mapM fun c => do
    return "Column: " ++ (← c.index 0).written ++ " " ++ (← c.index 1).written

/-- The entries of an `UPDATE`: `Set: c = v` for each assignment. -/
def assignmentEntries (assigns : Datum) : Except Fault (List Str) := do
  (← assigns.items).mapM fun a => do
    let (c, v) ← a.pair
    return "Set: " ++ c.written ++ " = " ++ v.written

/-- Whether a `WHERE` clause is present. -/
def Node.isPresent : Node → Bool
  | .absent => false
  | _ => true

mutual

/-- The lines of a tree drawn under the prefix `pre`, as a last child or not. -/
def lines (pre : Str) (last : Bool) : Node → Except Fault (List Str)
  | .query stmts _ => do
    return (pre ++ connector last ++ "Query") :: (← children (pre ++ indent last) stmts)
  | .create t cols _ => do
    let es ← columnEntries cols
    return (pre ++ connector last ++ "Create Table: " ++ t.written) ::
      textLines (pre ++ indent last) false es
  | .insert t vals _ => do
    let es ← vals.items
    return (pre ++ connector last ++ "Insert into: " ++ t.written) ::
      textLines (pre ++ indent last) false (es.map fun v => "Value: " ++ v.written)
  | .select items t f _ => do
    let es ← items.items
    let head := pre ++ connector last ++ "Select from: " ++ t.written
    let texts := textLines (pre ++ indent last) (Node.isPresent f)
      (es.map fun c => "Column: " ++ c.written)
    return head :: texts ++ (← filterLines (pre ++ indent last) f)
  | .update t assigns f _ => do
    let es ← assignmentEntries assigns
    let head := pre ++ connector last ++ "Update: " ++ t.written
    return head :: textLines (pre ++ indent last) (Node.isPresent f) es ++
      (← filterLines (pre ++ indent last) f)
  | .delete t f _ => do
    return (pre ++ connector last ++ "Delete from: " ++ t.written) ::
      (← filterLines (pre ++ indent last) f)
  | .binary op l r _ => do
    let ls ← lines (pre ++ indent last) false l
    let rs ← lines (pre ++ indent last) true r
    return (pre ++ connector last ++ "BinaryOp: " ++ op.written) :: ls ++ rs
  | .negation c _ => do
    return (pre ++ connector last ++ "NOT") :: (← lines (pre ++ indent last) true c)
  | .column n _ ty => return [pre ++ connector last ++ "ColumnRef: " ++ n.written ++ annotation ty]
  | .literal v _ ty => return [pre ++ connector last ++ "Literal: " ++ v.written ++ annotation ty]
  | .foreign => return [pre ++ connector last ++ "Unknown: object"]
  | .absent => return [pre ++ connector last ++ "Unknown: NoneType"]

/-- The lines of a `WHERE` clause, the last child of its statement; none if it is absent. -/
def filterLines (pre : Str) : Node → Except Fault (List Str)
  | .absent => return []
  | n => lines pre true n

/-- The lines of a list of children under the prefix `pre`. -/
def children (pre : Str) : List Node → Except Fault (List Str)
  | [] => return []
  | [n] => lines pre true n
  | n :: rest => do return (← lines pre false n) ++ (← children pre rest)

end

end Render

/-- The drawing of a tree, one line per entry. -/
def Node.render (n : Node) : Except Fault (List Str) :=
  Render.lines [] true n

end SqlFront
